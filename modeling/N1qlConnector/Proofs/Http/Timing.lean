import N1qlConnector.Proofs.Http.Handling

/-!
# Which statements are timed

Statements that requests run, explain or hand over are timed when the store has answered, whatever
the answer is. The statements that infer the tables of a bucket are sent by another way and are not
timed at all. So the number of observations falls short of the number of statements by exactly the
inferences, and the two agree in a run only if no request for the tables got as far as one.

`Trace.counting` is a trace after further calls of which some are timed. That a session leaves such
a trace is `Session.Times`, which is kept by taking one step after the other; what is counted then
follows for every route, for every request, and by induction for every run.

## Main results

* `Server.times_handle` : what one request adds to the observations.
* `Server.runWith_handleEach` : the observations of a run against the statements that were sent.
-/

namespace N1qlConnector

/-- A call that sends a statement. -/
def Call.sendsStatement : Call → Bool
  | .query .. => true
  | .listScopes _ | .ping | .diagnostics => false

/-- A trace after further calls, of which some were timed. -/
def Trace.counting (trace : Trace) (timed : Call → Bool) (made : List Call) : Trace :=
  ⟨trace.calls ++ made, trace.timed + made.countP timed⟩

@[simp] theorem Trace.counting_nil (trace : Trace) (timed : Call → Bool) :
    trace.counting timed [] = trace := by
  simp [counting]

@[simp] theorem Trace.counting_counting (trace : Trace) (timed : Call → Bool)
    (made more : List Call) :
    (trace.counting timed made).counting timed more = trace.counting timed (made ++ more) := by
  simp [counting, Nat.add_assoc]

/-- Whatever the store does, of the calls that the session makes these are timed. -/
def Session.Times {α : Type} (session : Session α) (timed : Call → Bool) : Prop :=
  ∀ store trace, ∃ made, (session.runWith store trace).2 = trace.counting timed made

/-! ## Steps -/

namespace Session

variable {α β : Type} {timed : Call → Bool}

theorem times_pure (value : α) : (pure value : Session α).Times timed :=
  fun _ trace => ⟨[], (trace.counting_nil timed).symm⟩

/-- A call on its own is not timed. -/
theorem times_call {made : Call} (h : timed made = false) : (call made).Times timed := by
  intro store trace
  refine ⟨[made], ?_⟩
  rw [runWith_call]
  simp [Trace.counting, h]

theorem times_timedQuery (h : ∀ made, timed made = made.sendsStatement) (statement : String)
    (parameters : Statement.Parameters) (context : String) :
    (timedQuery statement parameters context).Times timed := by
  intro store trace
  refine ⟨[.query statement parameters context], ?_⟩
  show (⟨trace.calls ++ _, trace.timed + 1⟩ : Trace) = _
  simp [Trace.counting, h, Call.sendsStatement]

theorem Times.bind {first : Session α} {next : α → Session β} (hFirst : first.Times timed)
    (hNext : ∀ value, (next value).Times timed) : (first >>= next).Times timed := by
  intro store trace
  obtain ⟨made, hMade⟩ := hFirst store trace
  rw [runWith_bind, hMade]
  obtain ⟨more, hMore⟩ := hNext (runWith first store trace).1 store (trace.counting timed made)
  exact ⟨made ++ more, by rw [hMore, Trace.counting_counting]⟩

theorem Times.map {session : Session α} (h : session.Times timed) (f : α → β) :
    (f <$> session).Times timed := fun store trace => h store trace

end Session

namespace Attempt

variable {α β : Type} {timed : Call → Bool}

/-- A step that fails is the last one, so nothing is counted after it. -/
theorem times_bind {first : Attempt α} {next : α → Attempt β} (hFirst : first.run.Times timed)
    (hNext : ∀ value, (next value).run.Times timed) : (first >>= next).run.Times timed := by
  intro store trace
  obtain ⟨made, hMade⟩ := hFirst store trace
  have hRun : Session.runWith (first >>= next).run store trace = _ :=
    runWith_bind first next store trace
  rw [hRun]
  rcases hResult : first.runWith store trace with ⟨failure | value, middle⟩
  · have hMiddle : middle = trace.counting timed made := hMade ▸ (congrArg Prod.snd hResult).symm
    exact ⟨made, hMiddle⟩
  · have hMiddle : middle = trace.counting timed made := hMade ▸ (congrArg Prod.snd hResult).symm
    subst hMiddle
    obtain ⟨more, hMore⟩ := hNext value store (trace.counting timed made)
    refine ⟨made ++ more, ?_⟩
    rw [← Trace.counting_counting]
    exact hMore

theorem times_ofAnswer {answer : Session (Except StoreError α)} (h : answer.Times timed) :
    (ofAnswer answer).run.Times timed := by
  refine Session.Times.bind h fun found => ?_
  cases found <;> exact Session.times_pure _

/-- Refusing a request makes no calls. -/
theorem times_ofCompiled (found : Compiled α) : (ofCompiled found).run.Times timed := by
  cases found <;> exact Session.times_pure _

end Attempt

/-! ## Statements of requests -/

section Statements

variable {config : Config} {timed : Call → Bool}
  (hTimed : ∀ made, timed made = made.sendsStatement)

theorem Settings.times_checkLength (settings : Settings) (statement : Prepared) :
    (settings.checkLength statement).run.Times timed := by
  unfold checkLength
  split
  · exact Session.times_pure _
  · dsimp only
    split <;> exact Session.times_pure _

include hTimed

theorem times_execute (statement : String) (parameters : Statement.Parameters) :
    (execute config statement parameters).run.Times timed := by
  unfold execute
  split
  · exact Session.times_pure _
  · exact Attempt.times_ofAnswer (Session.times_timedQuery hTimed _ _ _)

theorem Request.times_run (request : Request) (settings : Settings) :
    (request.run config settings).run.Times timed := by
  refine Attempt.times_bind (Attempt.times_ofCompiled _) fun compiled => ?_
  rw [CompiledRequest.run_eq]
  refine Attempt.times_bind (settings.times_checkLength _) fun _ => ?_
  refine Attempt.times_bind (times_execute hTimed _ _) fun rows => ?_
  exact Attempt.times_bind (times_execute hTimed _ _) fun totals => Session.times_pure _

theorem Prepared.times_explain (statement : Prepared) :
    (statement.explain config).run.Times timed := by
  unfold explain
  split
  · exact Session.times_pure _
  · exact Attempt.times_bind (times_execute hTimed _ _) fun plan => Session.times_pure _

theorem Request.times_explain (request : Request) (settings : Settings) :
    (request.explain config settings).run.Times timed := by
  refine Attempt.times_bind (Attempt.times_ofCompiled _) fun compiled => ?_
  refine Attempt.times_bind (compiled.rows.times_explain hTimed) fun rows => ?_
  exact Attempt.times_bind (compiled.totals.times_explain hTimed) fun totals => Session.times_pure _

theorem RawRequest.times_run (request : RawRequest) : (request.run config).run.Times timed :=
  Attempt.times_bind (times_execute hTimed _ _) fun _ => Session.times_pure _

end Statements

/-! ## Inferences -/

section Inferences

variable {config : Config} {timed : Call → Bool} (hTimed : ∀ made, timed made = false)

include hTimed

theorem times_inferTable (tables : List TableInfo) (place : String × String) :
    (inferTable config tables place.1 place.2).Times timed := by
  unfold inferTable
  dsimp only
  split
  · exact Session.times_pure _
  · refine (Session.times_call (hTimed _)).bind fun answer => ?_
    cases answer with
    | error error => exact Session.times_pure _
    | ok rows =>
        dsimp only
        split <;> exact Session.times_pure _

theorem times_inferTables (tables : List TableInfo) (places : List (String × String)) :
    (inferTables config tables places).Times timed := by
  induction places generalizing tables with
  | nil => exact Session.times_pure _
  | cons place places ih => exact (times_inferTable hTimed tables place).bind ih

theorem Config.times_inferSchema : config.inferSchema.run.Times timed := by
  have hListing := Session.times_call (hTimed (.listScopes config.bucket))
  refine Attempt.times_bind (Attempt.times_ofAnswer hListing) fun scopes => ?_
  refine Attempt.times_bind ?_ fun tables => Session.times_pure _
  exact (times_inferTables hTimed [] (ScopeListing.pairs scopes)).map Except.ok

end Inferences

namespace Http

/-! ## Requests -/

/-- Which calls of a request are timed. What tells them apart is the route that serves the request,
and not the statement: one that a caller hands over may be spelled like an inference. -/
def Message.timed (message : Message) (call : Call) : Bool :=
  call.sendsStatement && message.path != "/schema"

section Serving

variable {message : Message} {timed : Call → Bool}

theorem Reply.times_ofAttempt {attempt : Attempt Reply} (h : attempt.run.Times timed) :
    (Reply.ofAttempt attempt).Times timed := by
  refine h.bind fun result => ?_
  cases result <;> exact Session.times_pure _

theorem times_withConfig {α : Type} {config : Except ConfigError α} {attempt : α → Attempt Reply}
    (h : ∀ config, (attempt config).run.Times timed) : (withConfig config attempt).Times timed := by
  cases config with
  | error cause => exact Session.times_pure _
  | ok config => exact Reply.times_ofAttempt (h config)

theorem times_withBody {α : Type} {reader : Reader α} {serve : α → Session Reply}
    (h : ∀ value, (serve value).Times timed) : (withBody message reader serve).Times timed := by
  unfold withBody
  split
  · exact h _
  · exact Session.times_pure _

theorem times_checkHealth (hPing : timed .ping = false) (hDiagnostics : timed .diagnostics = false)
    (config : Option Config) : (checkHealth config).run.Times timed := by
  unfold checkHealth
  rcases config.bind Config.healthCheck with _ | _ | _
  · exact Session.times_pure _
  · exact Attempt.times_bind (Attempt.times_ofAnswer (Session.times_call hPing))
      fun _ => Session.times_pure _
  · refine Attempt.times_bind (Attempt.times_bind ?_ fun _ => Session.times_pure _)
      fun _ => Session.times_pure _
    exact Attempt.times_ofAnswer (Session.times_call hDiagnostics)

/-- A route times all statements it sends, but for the one that infers tables. -/
theorem Server.times_serve (server : Server) (counted : List (String × Nat)) (message : Message)
    {route : Route} (hPath : route.path = message.path) :
    (server.serve counted message route).Times message.timed := by
  have hTimed (hSchema : message.path ≠ "/schema") (made : Call) :
      message.timed made = made.sendsStatement := by
    simp [Message.timed, hSchema]
  cases route with
  | capabilities => exact Session.times_pure _
  | metrics => exact fun _ trace => ⟨[], (trace.counting_nil _).symm⟩
  | schema =>
      have hNone (made : Call) : message.timed made = false := by
        simp [Message.timed, ← hPath, Route.path]
      exact times_withConfig fun config =>
        Attempt.times_bind (config.times_inferSchema hNone) fun _ => Session.times_pure _
  | query =>
      refine times_withBody fun request => times_withConfig fun config => ?_
      refine Attempt.times_bind (request.times_run (hTimed ?_) _) fun _ => Session.times_pure _
      simp [← hPath, Route.path]
  | explain =>
      refine times_withBody fun request => times_withConfig fun config => ?_
      refine Attempt.times_bind (request.times_explain (hTimed ?_) _) fun _ => Session.times_pure _
      simp [← hPath, Route.path]
  | raw =>
      refine times_withBody fun request => times_withConfig fun config => ?_
      refine Attempt.times_bind (request.times_run (hTimed ?_)) fun _ => Session.times_pure _
      simp [← hPath, Route.path]
  | health => exact times_withConfig (times_checkHealth rfl rfl)

theorem Server.times_dispatch (server : Server) (counted : List (String × Nat))
    (message : Message) : (server.dispatch counted message).Times message.timed := by
  unfold dispatch
  split
  · exact Session.times_pure _
  · rename_i route hRoute
    have hPath : route.path = message.path := by simpa using List.find?_some hRoute
    split
    · exact Session.times_pure _
    split
    · exact (server.times_serve counted message hPath).map _
    · exact server.times_serve counted message hPath

/-- What one request adds to the observations: its statements, unless it asks for the tables. -/
theorem Server.times_handle (server : Server) (counted : List (String × Nat)) (message : Message) :
    (server.handle counted message).Times message.timed := by
  have hDispatch := server.times_dispatch (server.counted counted message) message
  unfold handle
  split
  · split
    · exact Session.times_pure _
    · exact hDispatch.bind fun reply => Session.times_pure _
  · exact hDispatch.bind fun reply => Session.times_pure _

end Serving

/-! ## Runs -/

/-- Handles requests one after the other, with what was counted before them. -/
def Server.handleEach (server : Server) (counted : List (String × Nat)) :
    List Message → Session (List Reply × List (String × Nat))
  | [] => return ([], counted)
  | message :: rest => do
    let (reply, counted) ← server.handle counted message
    let (replies, counted) ← server.handleEach counted rest
    return (reply :: replies, counted)

/-- How many statements were sent to infer tables, given the calls that each request made. -/
def inferences : List Message → List (List Call) → Nat
  | message :: messages, calls :: made =>
    (if message.path = "/schema" then calls.countP Call.sendsStatement else 0) +
      inferences messages made
  | _, _ => 0

/-- Of the calls of a request all statements are either timed or inferences. -/
theorem Message.countP_timed (message : Message) (calls : List Call) :
    calls.countP message.timed +
        (if message.path = "/schema" then calls.countP Call.sendsStatement else 0) =
      calls.countP Call.sendsStatement := by
  by_cases hSchema : message.path = "/schema"
  · have hNone (call : Call) : message.timed call = false := by simp [timed, hSchema]
    have hCount : calls.countP message.timed = 0 := List.countP_eq_zero.2 fun call _ => by
      simp [hNone call]
    rw [hCount, if_pos hSchema, Nat.zero_add]
  · have hAll : message.timed = Call.sendsStatement := by
      funext call
      simp [timed, hSchema]
    rw [hAll, if_neg hSchema, Nat.add_zero]

/-- In a run every statement is timed once, whether it succeeds or fails, but for those that infer
tables. The observations and the statements are equally many just in case there is none of these. -/
theorem Server.runWith_handleEach (server : Server) (counted : List (String × Nat))
    (messages : List Message) (store : Store) (trace : Trace) :
    ∃ made result final,
      Session.runWith (server.handleEach counted messages) store trace = (result, final) ∧
      made.length = messages.length ∧ final.calls = trace.calls ++ made.flatten ∧
      final.timed + inferences messages made =
        trace.timed + made.flatten.countP Call.sendsStatement := by
  induction messages generalizing counted trace with
  | nil => exact ⟨[], _, trace, rfl, rfl, by simp, by simp [inferences]⟩
  | cons message rest ih =>
      obtain ⟨calls, hCalls⟩ := server.times_handle counted message store trace
      rcases hRun : Session.runWith (server.handle counted message) store trace with
        ⟨⟨reply, counted'⟩, middle⟩
      obtain rfl : middle = trace.counting message.timed calls := by
        rw [hRun] at hCalls
        exact hCalls
      obtain ⟨made, ⟨replies, counted''⟩, final, hRest, hLength, hFinal, hTimed⟩ :=
        ih counted' (trace.counting message.timed calls)
      refine ⟨calls :: made, (reply :: replies, counted''), final, ?_, ?_, ?_, ?_⟩
      · rw [handleEach, Session.runWith_bind, hRun]
        dsimp only
        rw [Session.runWith_bind, hRest]
        rfl
      · rw [List.length_cons, List.length_cons, hLength]
      · rw [hFinal, List.flatten_cons, ← List.append_assoc]
        rfl
      · have hCount := message.countP_timed calls
        have hStep : (trace.counting message.timed calls).timed =
            trace.timed + calls.countP message.timed := rfl
        rw [hStep] at hTimed
        rw [inferences, List.flatten_cons, List.countP_append]
        omega

/-- A request for the tables of a bucket with one collection sends a statement that is not timed. -/
example :
    let store : Store := fun _ call =>
      match call with
      | .query .. => .ok []
      | .listScopes _ => .ok [⟨"s", ["c"]⟩]
      | .ping => .ok ()
      | .diagnostics => .ok .null
    let message : Message :=
      { target := "/schema", headers := [(configHeader, "\x7b\"bucket\":\"b\"\x7d")] }
    let final :=
      (Session.runWith (Server.handleEach { metered := true } [] [message]) store .empty).2
    final.calls.countP Call.sendsStatement = 1 ∧ final.timed = 0 := by
  decide +kernel

end Http

end N1qlConnector
