import N1qlConnector.Proofs.Format.Records
import N1qlConnector.Proofs.Http.Handling

/-!
# What keeps a request from a store

A request that is the caller's mistake must not reach a store, and one that does must have named
the bucket that it is about. Both follow from the order in which a request is looked at, and hold of
every request, however it is set up to slip through. `Server.Guards` collects what is known of the
calls that a request makes and of what a caller is told if it fails.

## Main results

* `Server.handle_guards` : the guards hold of every request.
-/

namespace N1qlConnector

open Statement

/-- A call is about the bucket of a configuration, if it is about any. -/
def Call.IsFor (config : Config) : Call → Prop
  | .query _ _ context =>
    context = "default:" ++ quoteName config.bucket ++ "." ++ quoteName config.scope
  | .listScopes bucket => bucket = config.bucket
  | .ping | .diagnostics => True

/-- Why a request for rows is refused although it could be read. -/
inductive Request.Refused (request : Request) (config : Config) (settings : Settings) :
    Failure → Prop
  | uncompiled {cause : CompileError} (h : request.compile config settings = .error cause) :
      Refused request config settings (.compile cause)
  | tooLong {compiled : CompiledRequest} {limit : Nat}
      (h : request.compile config settings = .ok compiled)
      (hLimit : settings.queryLengthLimit = some limit)
      (hLength : limit < compiled.rows.text.length) :
      Refused request config settings (.queryTooLong compiled.rows.text.length limit)

theorem Request.Refused.runWith {request : Request} {config : Config} {settings : Settings}
    {failure : Failure} (h : request.Refused config settings failure) (store : Store)
    (trace : Trace) :
    (request.run config settings).runWith store trace = (.error failure, trace) := by
  refine (request.runWith_iff config settings store trace trace _).2 ⟨[], ?_, trace.after_nil.symm⟩
  cases h with
  | uncompiled hCause => exact .uncompiled hCause
  | tooLong hCompiled hLimit hLength => exact .compiled hCompiled (.tooLong hLimit hLength)

theorem Request.Refused.isRefusal {request : Request} {config : Config} {settings : Settings}
    {failure : Failure} (h : request.Refused config settings failure) : failure.IsRefusal := by
  cases h with
  | uncompiled _ => exact .compile _
  | tooLong _ _ _ => exact .queryTooLong _ _

namespace Http

/-- What is known of the calls that a request makes, and of the reply. -/
structure Server.Guards (server : Server) (message : Message) (made : List Call) (reply : Reply) :
    Prop where
  /-- A mistake of the caller makes no calls. -/
  rejected : 400 ≤ reply.status → reply.status ≤ 499 → made = []
  /-- Only some routes make calls. -/
  routed : made ≠ [] →
    message.method = "POST" ∧ message.path ∈ ["/query", "/explain", "/raw"] ∨
      message.method ∈ ["GET", "HEAD"] ∧ message.path ∈ ["/schema", "/health"]
  /-- They make them only if the header is the text of a configuration with a bucket, and only about
  this bucket. -/
  configured : made ≠ [] →
    ∃ text config, message.header? "x-hasura-dataconnector-config" = some text ∧
      Config.ofHeader (some text) = .ok config ∧
      Config.WritesBucket config.bucket (Written.ofText text) ∧ ∀ call ∈ made, call.IsFor config
  /-- A request for rows that cannot be compiled or is too long makes none either. -/
  refused : ∀ (request : Request) (config : Config) (failure : Failure),
    message.method = "POST" → message.path = "/query" →
    message.read Request.reader = .ok request → message.config = .ok config →
    request.Refused config server.settings failure →
      made = [] ∧ reply.status = 500 ∧ reply.body = .json failure.report.toJson
  /-- A mistake of the caller is one in the body or one in the configuration, and the reply tells
  what is wrong with a configuration. -/
  misconfigured : reply.status = 400 → message.method ≠ "HEAD" →
    reply.body = .text ∧
        (∃ route answer, Route.ofPath? server.metered message.path = some route ∧
          message.Unreadable answer route ∧ answer.status = 400) ∨
      ∃ cause, message.config = .error cause ∧
        reply.body = .json (Failure.config cause).report.toJson
  /-- A reply tells of any other failure, too. -/
  failed : reply.status = 500 → message.method ≠ "HEAD" →
    ∃ report : ErrorReport, reply.body = .json report.toJson

section Serving

variable {message : Message} {store : Store} {history made : List Call} {route : Route}
  {reply : Reply}

theorem Route.okStatus_or (route : Route) : route.okStatus = 200 ∨ route.okStatus = 204 := by
  cases route <;> decide

/-- What a status says of the calls that were made and of the body. -/
theorem Server.Serves.status (h : Server.Serves message store history route made reply) :
    (reply.status = 200 ∨ reply.status = 204) ∨
    (reply.status = 500 ∧ ∃ failure : Failure, reply.body = .json failure.report.toJson) ∨
    made = [] ∧ 400 ≤ reply.status ∧ reply.status < 500 ∧
      (reply.body = .text ∧ message.Unreadable reply route ∨
        ∃ cause, message.config = .error cause ∧
          reply.body = .json (Failure.config cause).report.toJson) := by
  cases h with
  | idle hStatus => exact .inl (.inl hStatus)
  | unreadable hUnreadable =>
      obtain ⟨hBody, hLower, hUpper⟩ := hUnreadable.text
      exact .inr (.inr ⟨rfl, hLower, hUpper, .inl ⟨hBody, hUnreadable⟩⟩)
  | misconfigured hConfig =>
      have hUpper : 400 < 500 := by decide
      exact .inr (.inr ⟨rfl, Nat.le_refl 400, hUpper, .inr ⟨_, hConfig, rfl⟩⟩)
  | unconfigured => exact .inl (.inr rfl)
  | refused hRefusal => exact .inr (.inl ⟨Reply.status_ofRefusal hRefusal, _, rfl⟩)
  | attempted hConfig hMakes hEnds hPassed hOk =>
      cases hEnds with
      | answered _ => exact .inl (hOk _ rfl ▸ route.okStatus_or)
      | failed _ _ _ => exact .inr (.inl ⟨Reply.status_ofStoreError _, _, rfl⟩)

theorem Route.Makes.isFor {config : Config} {call : Call} (h : route.Makes config call) :
    call.IsFor config := by
  cases route with
  | capabilities | metrics => exact h.elim
  | schema => rcases h with rfl | ⟨place, rfl⟩ <;> exact Eq.refl _
  | query | explain | raw =>
      obtain ⟨statement, parameters, rfl⟩ := h
      exact Eq.refl _
  | health => rcases h with ⟨-, rfl⟩ | ⟨-, rfl⟩ <;> trivial

/-- The method and the path of a request that a route makes calls for. -/
theorem Route.Makes.served {config : Config} {call : Call} {metered : Bool}
    (h : route.Makes config call) (hPath : Route.ofPath? metered message.path = some route)
    (hMethod : route.serves message.method = true) :
    message.method = "POST" ∧ message.path ∈ ["/query", "/explain", "/raw"] ∨
      message.method ∈ ["GET", "HEAD"] ∧ message.path ∈ ["/schema", "/health"] := by
  have hEq : route.path = message.path := by simpa using List.find?_some hPath
  rw [← hEq]
  cases route with
  | capabilities | metrics => exact h.elim
  | query | explain | raw =>
      exact .inl ⟨by simpa [Route.serves, Route.takesBody] using hMethod, by simp [Route.path]⟩
  | schema | health =>
      exact .inr ⟨by simpa [Route.serves, Route.takesBody] using hMethod, by simp [Route.path]⟩

/-- A configuration is read from the header, which therefore names its bucket. -/
theorem Message.header_of_config {config : Config} (h : message.config = .ok config) :
    ∃ text, message.header? configHeader = some text ∧ Config.ofHeader (some text) = .ok config ∧
      Config.WritesBucket config.bucket (Written.ofText text) := by
  unfold Message.config Message.configText at h
  cases hHeader : message.header? configHeader with
  | none =>
      have hMissing : Config.ofHeader none = .error .missingBucket := by with_unfolding_all rfl
      rw [hHeader] at h
      cases hMissing.symm.trans h
  | some text =>
      rw [hHeader] at h
      dsimp only at h
      split at h
      · have hConfig : Config.ofHeader (some text) = .ok config := h
        exact ⟨text, rfl, hConfig, Config.writesBucket_of_reader (Config.reader_of_ofHeader hConfig)⟩
      · cases h

end Serving

/-- What a refused request for rows is answered with. -/
theorem Server.runWith_handle_refused {server : Server} (counted : List (String × Nat))
    {message : Message} {request : Request} {config : Config} {failure : Failure}
    (hMethod : message.method = "POST") (hPath : message.path = "/query")
    (hRead : message.read Request.reader = .ok request) (hConfig : message.config = .ok config)
    (hRefused : request.Refused config server.settings failure) (store : Store) (trace : Trace) :
    ∃ reply counted',
      Session.runWith (server.handle counted message) store trace = ((reply, counted'), trace) ∧
      reply.status = 500 ∧ reply.body = .json failure.report.toJson := by
  have hRoute : Route.ofPath? server.metered message.path = some .query := by
    rw [hPath]
    cases server.metered <;> rfl
  have hServes : Route.query.serves message.method = true := by
    rw [hMethod]
    rfl
  have hAnswer (counted : List (String × Nat)) :
      Session.runWith (server.serve counted message .query) store trace =
        (.ofFailure failure, trace) := by
    rw [Server.serve, withBody, hRead]
    dsimp only
    rw [hConfig, withConfig, Reply.runWith_ofAttempt, Attempt.runWith_map, hRefused.runWith]
    rfl
  have hDispatch := server.runWith_dispatch hRoute hServes (hAnswer (server.counted counted message))
  rw [if_neg (by rw [hMethod]; decide)] at hDispatch
  have hPreflight : ¬(server.permissiveCors = true ∧ message.method = "OPTIONS") := by
    rw [hMethod]
    exact fun h => absurd h.2 (by decide)
  obtain ⟨headers, hHandle⟩ := server.runWith_handle hPreflight hDispatch
  exact ⟨_, _, hHandle, Reply.status_ofRefusal hRefused.isRefusal, rfl⟩

section Handling

variable {server : Server} {message : Message} {store : Store} {history made : List Call}
  {reply : Reply}

/-- Calls are made by a route that serves the request, for the configuration of the request. -/
theorem Server.Handles.makes (h : server.Handles message store history made reply)
    (hNe : made ≠ []) :
    ∃ route config, Route.ofPath? server.metered message.path = some route ∧
      route.serves message.method = true ∧ message.config = .ok config ∧
      ∀ call ∈ made, route.Makes config call := by
  cases h with
  | declined _ => exact absurd rfl hNe
  | served hPath hMethod hServes _ _ =>
      obtain ⟨config, -, hConfig, hMakes, -⟩ := hServes.of_ne_nil hNe
      exact ⟨_, config, hPath, hMethod, hConfig, hMakes⟩

/-- No calls have been made for what is a mistake of the caller. -/
theorem Server.Handles.eq_nil (h : server.Handles message store history made reply)
    (hLower : 400 ≤ reply.status) (hUpper : reply.status ≤ 499) : made = [] := by
  cases h with
  | declined _ => rfl
  | served _ _ hServes hStatus _ =>
      rcases hServes.status with h | ⟨h, -⟩ | ⟨h, -⟩
      · omega
      · omega
      · exact h

/-- What a reply with one of the statuses of failures says is what a route says. -/
theorem Server.Handles.exists_route (h : server.Handles message store history made reply)
    (hStatus : reply.status = 400 ∨ reply.status = 500) (hHead : message.method ≠ "HEAD") :
    ∃ route answer, Route.ofPath? server.metered message.path = some route ∧
      Server.Serves message store history route made answer ∧
      reply.status = answer.status ∧ reply.body = answer.body := by
  cases h with
  | declined hDeclined => rcases hStatus with hStatus | hStatus <;> simp [hStatus] at hDeclined
  | served hPath _ hServes hSame hBody =>
      rw [if_neg hHead] at hBody
      exact ⟨_, _, hPath, hServes, hSame, hBody⟩

end Handling

/-- Whatever the request, the guards hold of the calls that it makes and of the reply. -/
theorem Server.handle_guards (server : Server) (counted : List (String × Nat)) (message : Message)
    (store : Store) (trace : Trace) :
    ∃ made reply counted' final,
      Session.runWith (server.handle counted message) store trace = ((reply, counted'), final) ∧
      final.calls = trace.calls ++ made ∧ server.Guards message made reply := by
  obtain ⟨made, reply, counted', final, hRun, hCalls, hHandles⟩ :=
    server.exists_handles counted message store trace
  refine ⟨made, reply, counted', final, hRun, hCalls, ?_⟩
  constructor
  case rejected => exact hHandles.eq_nil
  case routed =>
    intro hNe
    obtain ⟨route, config, hPath, hMethod, -, hMakes⟩ := hHandles.makes hNe
    obtain ⟨call, hMem⟩ := List.exists_mem_of_ne_nil made hNe
    exact (hMakes call hMem).served hPath hMethod
  case configured =>
    intro hNe
    obtain ⟨route, config, -, -, hConfig, hMakes⟩ := hHandles.makes hNe
    obtain ⟨text, hHeader, hText, hBucket⟩ := message.header_of_config hConfig
    exact ⟨text, config, hHeader, hText, hBucket, fun call hMem => (hMakes call hMem).isFor⟩
  case refused =>
    intro request config failure hMethod hPath hRead hConfig hRefused
    obtain ⟨reply', counted'', hRefusal, hStatus, hBody⟩ :=
      server.runWith_handle_refused counted hMethod hPath hRead hConfig hRefused store trace
    obtain ⟨hReply, rfl⟩ := Prod.mk.inj (hRun.symm.trans hRefusal)
    obtain ⟨rfl, -⟩ := Prod.mk.inj hReply
    exact ⟨List.append_cancel_left (hCalls.symm.trans (List.append_nil _).symm), hStatus, hBody⟩
  case misconfigured =>
    intro hStatus hHead
    obtain ⟨route, answer, hPath, hServes, hSame, hBody⟩ :=
      hHandles.exists_route (.inl hStatus) hHead
    rw [hBody]
    rcases hServes.status with h | ⟨h, -⟩ | ⟨-, -, -, h | h⟩
    · omega
    · omega
    · exact .inl ⟨h.1, route, answer, hPath, h.2, hSame ▸ hStatus⟩
    · exact .inr h
  case failed =>
    intro hStatus hHead
    obtain ⟨route, answer, -, hServes, hSame, hBody⟩ := hHandles.exists_route (.inr hStatus) hHead
    rw [hBody]
    rcases hServes.status with h | ⟨-, failure, h⟩ | ⟨-, -, h, -⟩
    · omega
    · exact ⟨failure.report, h⟩
    · omega

end Http

end N1qlConnector
