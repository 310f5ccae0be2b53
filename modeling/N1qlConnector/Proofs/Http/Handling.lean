import N1qlConnector.Http.Server
import N1qlConnector.Proofs.Run.Surfacing

/-!
# How a request is handled

A request passes several places at each of which it may be answered, and only behind the last of
them is there a store. `Server.Serves` lists the ways in which a route may serve a request, with the
calls that are made and the reply, and `Server.Handles` those in which a whole server may answer
one. Whatever is said of all requests follows from these lists by cases, without going through the
server again.

## Main results

* `Server.exists_serves` : a route serves a request in one of these ways.
* `Server.exists_handles` : a server handles a request in one of these ways.
-/

namespace N1qlConnector.Http

/-! ## Routes -/

/-- The calls that a route may make for a configuration. -/
def Route.Makes (config : Config) : Route → Call → Prop
  | .capabilities, _ | .metrics, _ => False
  | .schema, call => call = .listScopes config.bucket ∨ ∃ place, call = config.inference place
  | .query, call | .explain, call | .raw, call =>
    ∃ statement parameters, call = .query statement parameters config.context
  | .health, call =>
    config.healthCheck = some .ping ∧ call = .ping ∨
      config.healthCheck = some .diagnostic ∧ call = .diagnostics

/-- The error of a call is the answer to a request for the route. Inferences of collections are the
calls that may fail without one. -/
def Route.Surfaced : Route → Call → Prop
  | .schema, .query .. => False
  | _, _ => True

/-- The status of an answer that is not a failure. A check has nothing to say. -/
def Route.okStatus : Route → Nat
  | .health => 204
  | _ => 200

/-- The body of a request has not the form that the route wants, for which it is answered so. -/
def Message.Unreadable (message : Message) (reply : Reply) : Route → Prop
  | .query | .explain => message.read Request.reader = .error reply
  | .raw => message.read RawRequest.reader = .error reply
  | _ => False

/-- The reply to an attempt that has ended. -/
def Reply.ofResult : Except Failure Reply → Reply
  | .ok reply => reply
  | .error failure => .ofFailure failure

/-- The ways in which a route serves a request, with the calls made to a store that has got certain
calls before, and the reply. -/
inductive Server.Serves (message : Message) (store : Store) (history : List Call) :
    Route → List Call → Reply → Prop
  /-- What the route knows does not come from a store. -/
  | idle {route : Route} {reply : Reply} (hStatus : reply.status = 200) :
      Serves message store history route [] reply
  | unreadable {route : Route} {reply : Reply} (hUnreadable : message.Unreadable reply route) :
      Serves message store history route [] reply
  | misconfigured {route : Route} {cause : ConfigError} (hConfig : message.config = .error cause) :
      Serves message store history route [] (.ofFailure (.config cause))
  /-- A check without a configuration. -/
  | unconfigured : Serves message store history .health [] { status := 204 }
  | refused {route : Route} {failure : Failure} (hRefusal : failure.IsRefusal) :
      Serves message store history route [] (.ofFailure failure)
  | attempted {route : Route} {config : Config} {made : List Call} {result : Except Failure Reply}
      (hConfig : message.config = .ok config) (hMakes : ∀ call ∈ made, route.Makes config call)
      (hEnds : store.Ends route.Surfaced history made result)
      (hPassed : ∀ call ∈ made, ¬route.Surfaced call → ∃ reply, result = .ok reply)
      (hOk : ∀ reply, result = .ok reply → reply.status = route.okStatus) :
      Serves message store history route made (.ofResult result)

section Serving

variable {message : Message} {store : Store} {trace : Trace} {route : Route}

/-- A body that cannot be read is answered with a text. -/
theorem Message.text_of_read {α : Type} {reader : Reader α} {reply : Reply}
    (h : message.read reader = .error reply) :
    reply.body = .text ∧ 400 ≤ reply.status ∧ reply.status < 500 := by
  have hText : ∃ status, reply = .text status ∧ 400 ≤ status ∧ status < 500 := by
    dsimp only [Message.read] at h
    split at h
    · exact ⟨415, (Except.error.inj h).symm, by decide, by decide⟩
    split at h
    · exact ⟨413, (Except.error.inj h).symm, by decide, by decide⟩
    split at h
    · cases h
    · exact ⟨400, (Except.error.inj h).symm, by decide, by decide⟩
    · exact ⟨422, (Except.error.inj h).symm, by decide, by decide⟩
  obtain ⟨status, rfl, hLower, hUpper⟩ := hText
  exact ⟨rfl, hLower, hUpper⟩

theorem Message.Unreadable.text {reply : Reply} (h : message.Unreadable reply route) :
    reply.body = .text ∧ 400 ≤ reply.status ∧ reply.status < 500 := by
  cases route with
  | query | explain | raw => exact Message.text_of_read h
  | capabilities | schema | health | metrics => exact h.elim

/-- What is answered when an attempt has ended. -/
theorem Reply.runWith_ofAttempt (attempt : Attempt Reply) (store : Store) (trace : Trace) :
    Session.runWith (Reply.ofAttempt attempt) store trace =
      (.ofResult (attempt.runWith store trace).1, (attempt.runWith store trace).2) := by
  show Session.runWith (attempt.run >>= _) store trace = _
  rw [Session.runWith_bind]
  unfold Attempt.runWith
  rcases attempt.run.runWith store trace with ⟨_ | _, _⟩ <;> rfl

/-- What a store did wrong is not the caller's mistake. -/
theorem Reply.status_ofStoreError (error : StoreError) :
    (Reply.ofFailure (.ofStoreError error)).status = 500 := by
  unfold Failure.ofStoreError
  split <;> rfl

theorem Reply.status_ofRefusal {failure : Failure} (h : failure.IsRefusal) :
    (Reply.ofFailure failure).status = 500 := by
  cases h <;> rfl

/-- An attempt with a configuration that was read serves the route. -/
theorem Server.exists_serves_ofAttempt {α : Type} {attempt : Attempt α} {config : Config}
    (hConfig : message.config = .ok config)
    (hConduct : attempt.Conduct (route.Makes config) route.Surfaced)
    (hPasses : attempt.Passes route.Surfaced) (reply : α → Reply)
    (hOk : ∀ value, (reply value).status = route.okStatus)
    (store : Store) (trace : Trace) :
    ∃ made answer final,
      Session.runWith (Reply.ofAttempt (attempt >>= fun value => pure (reply value))) store trace =
        (answer, final) ∧
      final.calls = trace.calls ++ made ∧
      Server.Serves message store trace.calls route made answer := by
  rw [Reply.runWith_ofAttempt, Attempt.runWith_map]
  cases hConduct with
  | refuses hRefusal hRun =>
      rw [hRun store trace]
      exact ⟨[], _, _, rfl, (List.append_nil _).symm, .refused hRefusal⟩
  | surfaces hSurfaces =>
      obtain ⟨made, hCalls, hMakes, hEnds⟩ := hSurfaces store trace
      refine ⟨made, _, _, rfl, hCalls, .attempted hConfig hMakes (hEnds.map reply) ?_ ?_⟩
      · intro call hMem hNot
        obtain ⟨value, hValue⟩ := hPasses store trace made hCalls call hMem hNot
        rw [hValue]
        exact ⟨reply value, rfl⟩
      · intro answer hAnswer
        cases hResult : (attempt.runWith store trace).1 with
        | error failure =>
            rw [hResult] at hAnswer
            cases hAnswer
        | ok value =>
            rw [hResult] at hAnswer
            obtain rfl := Except.ok.inj hAnswer
            exact hOk value

/-- The same with a configuration that may be unreadable. -/
theorem Server.exists_serves_withConfig {α : Type} {attempt : Config → Attempt α} (route : Route)
    (hOk : route.okStatus = 200)
    (hConduct : ∀ config, (attempt config).Conduct (route.Makes config) route.Surfaced)
    (hPasses : ∀ config, (attempt config).Passes route.Surfaced)
    (toJson : α → Json) (message : Message) (store : Store) (trace : Trace) :
    ∃ made answer final,
      Session.runWith (withConfig message.config fun config =>
        attempt config >>= fun found => pure (.json 200 (toJson found))) store trace =
          (answer, final) ∧
      final.calls = trace.calls ++ made ∧
      Server.Serves message store trace.calls route made answer := by
  cases hConfig : message.config with
  | error cause => exact ⟨[], _, _, rfl, (List.append_nil _).symm, .misconfigured hConfig⟩
  | ok config =>
      exact Server.exists_serves_ofAttempt hConfig (hConduct config) (hPasses config)
        (fun found => .json 200 (toJson found)) (fun _ => hOk.symm) store trace

/-- The same with a body that may be unreadable, too. -/
theorem Server.exists_serves_withBody {α β : Type} {reader : Reader β}
    {attempt : β → Config → Attempt α} (route : Route) (hOk : route.okStatus = 200)
    (hUnreadable : ∀ reply, message.read reader = .error reply → message.Unreadable reply route)
    (hConduct : ∀ request config,
      (attempt request config).Conduct (route.Makes config) route.Surfaced)
    (hPasses : ∀ request config, (attempt request config).Passes route.Surfaced)
    (toJson : α → Json) (store : Store) (trace : Trace) :
    ∃ made answer final,
      Session.runWith (withBody message reader fun request =>
        withConfig message.config fun config =>
          attempt request config >>= fun found => pure (.json 200 (toJson found))) store trace =
            (answer, final) ∧
      final.calls = trace.calls ++ made ∧
      Server.Serves message store trace.calls route made answer := by
  unfold withBody
  cases hRead : message.read reader with
  | error reply =>
      exact ⟨[], reply, trace, rfl, (List.append_nil _).symm, .unreadable (hUnreadable reply hRead)⟩
  | ok request =>
      exact Server.exists_serves_withConfig route hOk (hConduct request) (hPasses request) toJson
        message store trace

/-- Asks a cluster for its state, in the way that a configuration wants. -/
def askHealth (config : Config) : Attempt Unit :=
  match config.healthCheck with
  | none => pure ()
  | some .ping => Attempt.ofAnswer (Session.call .ping)
  | some .diagnostic => do
    let _ ← Attempt.ofAnswer (Session.call .diagnostics)
    pure ()

theorem checkHealth_some (config : Config) :
    checkHealth (some config) = askHealth config >>= fun _ => pure { status := 204 } := by
  unfold checkHealth askHealth
  rw [show (some config).bind Config.healthCheck = config.healthCheck from rfl]
  rcases config.healthCheck with _ | _ | _ <;> rfl

/-- Asking for the state of a cluster is one call at most, and its error is the answer. -/
theorem surfaces_askHealth (config : Config) {surfaced : Call → Prop}
    (hSurfaced : ∀ call, surfaced call) :
    (askHealth config).Surfaces (Route.health.Makes config) surfaced := by
  unfold askHealth
  rcases hCheck : config.healthCheck with _ | _ | _
  · exact Attempt.surfaces_pure ()
  · have hMakes : Route.health.Makes config .ping := .inl ⟨hCheck, rfl⟩
    exact Attempt.surfaces_ofAnswer hMakes (hSurfaced _) (fun _ _ => rfl) fun _ _ => rfl
  · have hMakes : Route.health.Makes config .diagnostics := .inr ⟨hCheck, rfl⟩
    have hAsked : (Attempt.ofAnswer (Session.call .diagnostics)).Surfaces
        (Route.health.Makes config) surfaced :=
      Attempt.surfaces_ofAnswer hMakes (hSurfaced _) (fun _ _ => rfl) fun _ _ => rfl
    exact hAsked.bind fun _ => Attempt.surfaces_pure ()

/-- A bucket is what a configuration may lack at most. -/
theorem Message.config_eq (message : Message) :
    message.config =
      match message.config? with
      | .ok (some config) => .ok config
      | .ok none => .error .missingBucket
      | .error cause => .error cause := by
  unfold Message.config Message.config?
  cases message.configText <;> rfl

/-- A route serves a request in one of the ways that are listed. -/
theorem Server.exists_serves (server : Server) (counted : List (String × Nat)) (message : Message)
    (store : Store) (trace : Trace) (route : Route) :
    ∃ made reply final,
      Session.runWith (server.serve counted message route) store trace = (reply, final) ∧
      final.calls = trace.calls ++ made ∧
      Server.Serves message store trace.calls route made reply := by
  cases route with
  | capabilities | metrics => exact ⟨[], _, _, rfl, (List.append_nil _).symm, .idle rfl⟩
  | schema =>
      refine Server.exists_serves_withConfig .schema rfl (fun config => .surfaces ?_)
        (fun config => config.passes_inferSchema trivial) SchemaResponse.toJson message store trace
      exact config.surfaces_inferSchema (.inl rfl) (fun place => .inr ⟨place, rfl⟩) trivial
        fun _ h => h
  | query =>
      exact Server.exists_serves_withBody .query rfl (fun _ h => h)
        (fun request _ => request.conduct_run (fun _ _ => ⟨_, _, rfl⟩) (fun _ => trivial) _)
        (fun _ _ => .of_forall fun _ => trivial) QueryResponse.toJson store trace
  | explain =>
      exact Server.exists_serves_withBody .explain rfl (fun _ h => h)
        (fun request _ => request.conduct_explain (fun _ _ => ⟨_, _, rfl⟩) (fun _ => trivial) _)
        (fun _ _ => .of_forall fun _ => trivial) ExplainResponse.toJson store trace
  | raw =>
      exact Server.exists_serves_withBody .raw rfl (fun _ h => h)
        (fun request _ => .surfaces (request.surfaces_run (fun _ _ => ⟨_, _, rfl⟩) fun _ => trivial))
        (fun _ _ => .of_forall fun _ => trivial) RawResponse.toJson store trace
  | health =>
      have hConfig := message.config_eq
      rw [Server.serve]
      cases hHealth : message.config? with
      | error cause =>
          rw [hHealth] at hConfig
          exact ⟨[], _, _, rfl, (List.append_nil _).symm, .misconfigured hConfig⟩
      | ok found =>
          rw [hHealth] at hConfig
          cases found with
          | none => exact ⟨[], _, _, rfl, (List.append_nil _).symm, .unconfigured⟩
          | some config =>
              rw [withConfig, checkHealth_some]
              have hAsked := surfaces_askHealth config fun _ => trivial
              exact Server.exists_serves_ofAttempt hConfig (.surfaces hAsked)
                (.of_forall fun _ => trivial) (fun _ => { status := 204 }) (fun _ => rfl) store trace

end Serving

/-- Calls are only ever made by an attempt. -/
theorem Server.Serves.of_ne_nil {message : Message} {store : Store} {route : Route}
    {history made : List Call} {answer : Reply}
    (h : Server.Serves message store history route made answer) (hNe : made ≠ []) :
    ∃ config result, message.config = .ok config ∧ (∀ call ∈ made, route.Makes config call) ∧
      store.Ends route.Surfaced history made result ∧
      (∀ call ∈ made, ¬route.Surfaced call → ∃ reply, result = .ok reply) ∧
      (∀ reply, result = .ok reply → reply.status = route.okStatus) ∧
      answer = .ofResult result := by
  cases h with
  | attempted hConfig hMakes hEnds hPassed hOk =>
      exact ⟨_, _, hConfig, hMakes, hEnds, hPassed, hOk, rfl⟩
  | idle _ | unreadable _ | misconfigured _ | unconfigured | refused _ => exact absurd rfl hNe

/-! ## Servers -/

/-- The ways in which a server handles a request: it declines to serve it, or a route serves it and
the reply says what it says, without its body if only the head was asked for. -/
inductive Server.Handles (server : Server) (message : Message) (store : Store)
    (history : List Call) : List Call → Reply → Prop
  | declined {reply : Reply} (hStatus : reply.status ∈ [200, 404, 405]) :
      Handles server message store history [] reply
  | served {route : Route} {made : List Call} {answer reply : Reply}
      (hPath : Route.ofPath? server.metered message.path = some route)
      (hMethod : route.serves message.method = true)
      (hServes : Server.Serves message store history route made answer)
      (hStatus : reply.status = answer.status)
      (hBody : reply.body = if message.method = "HEAD" then .empty else answer.body) :
      Handles server message store history made reply

/-- Headers that are added change nothing else. -/
theorem Server.Handles.withHeaders {server : Server} {message : Message} {store : Store}
    {history made : List Call} {reply : Reply} (h : server.Handles message store history made reply)
    (headers : List (String × String)) :
    server.Handles message store history made (reply.withHeaders headers) := by
  cases h with
  | declined hStatus => exact .declined hStatus
  | served hPath hMethod hServes hStatus hBody => exact .served hPath hMethod hServes hStatus hBody

section Handling

variable {server : Server} {counted : List (String × Nat)} {message : Message} {store : Store}
  {trace final : Trace} {route : Route} {answer : Reply}

/-- What a route answers is passed on, without its body if only the head was asked for. -/
theorem Server.runWith_dispatch (hPath : Route.ofPath? server.metered message.path = some route)
    (hMethod : route.serves message.method = true)
    (hRun : Session.runWith (server.serve counted message route) store trace = (answer, final)) :
    Session.runWith (server.dispatch counted message) store trace =
      (if message.method = "HEAD" then answer.withoutBody else answer, final) := by
  unfold Server.dispatch
  rw [hPath]
  dsimp only
  rw [hMethod, if_neg (by decide)]
  by_cases hHead : message.method = "HEAD"
  · rw [if_pos (beq_iff_eq.2 hHead), if_pos hHead, Session.runWith_map, hRun]
  · rw [if_neg fun h => hHead (beq_iff_eq.1 h), if_neg hHead, hRun]

/-- What is dispatched is the answer, but for some headers. Only the question what scripts may do is
answered before. -/
theorem Server.runWith_handle
    (hPreflight : ¬(server.permissiveCors = true ∧ message.method = "OPTIONS"))
    (hRun : Session.runWith (server.dispatch (server.counted counted message) message) store trace =
      (answer, final)) :
    ∃ headers, Session.runWith (server.handle counted message) store trace =
      ((answer.withHeaders headers, server.counted counted message), final) := by
  unfold Server.handle
  cases hCors : server.permissiveCors with
  | true =>
      refine ⟨originHeaders message, ?_⟩
      rw [if_pos rfl, if_neg fun h => hPreflight ⟨hCors, beq_iff_eq.1 h⟩]
      rw [Session.runWith_bind, hRun]
      rfl
  | false =>
      refine ⟨[], ?_⟩
      rw [if_neg (by decide), Session.runWith_bind, hRun]
      simp [Reply.withHeaders]

theorem Server.exists_handles_dispatch (server : Server) (counted : List (String × Nat))
    (message : Message) (store : Store) (trace : Trace) :
    ∃ made reply final,
      Session.runWith (server.dispatch counted message) store trace = (reply, final) ∧
      final.calls = trace.calls ++ made ∧
      server.Handles message store trace.calls made reply := by
  cases hPath : Route.ofPath? server.metered message.path with
  | none =>
      unfold Server.dispatch
      rw [hPath]
      exact ⟨[], _, _, rfl, (List.append_nil _).symm, .declined (by simp)⟩
  | some route =>
      cases hMethod : route.serves message.method with
      | false =>
          unfold Server.dispatch
          rw [hPath]
          dsimp only
          rw [hMethod]
          exact ⟨[], _, _, rfl, (List.append_nil _).symm, .declined (by simp)⟩
      | true =>
          obtain ⟨made, answer, final, hRun, hCalls, hServes⟩ :=
            server.exists_serves counted message store trace route
          refine ⟨made, _, _, server.runWith_dispatch hPath hMethod hRun, hCalls,
            .served hPath hMethod hServes ?_ ?_⟩
          · split <;> rfl
          · split <;> rfl

/-- A server handles a request in one of the ways that are listed. -/
theorem Server.exists_handles (server : Server) (counted : List (String × Nat)) (message : Message)
    (store : Store) (trace : Trace) :
    ∃ made reply counted' final,
      Session.runWith (server.handle counted message) store trace = ((reply, counted'), final) ∧
      final.calls = trace.calls ++ made ∧
      server.Handles message store trace.calls made reply := by
  by_cases hPreflight : server.permissiveCors = true ∧ message.method = "OPTIONS"
  · refine ⟨[], server.preflight message, counted, trace, ?_, (List.append_nil _).symm,
      .declined (by simp [Server.preflight])⟩
    unfold Server.handle
    rw [if_pos hPreflight.1, if_pos (beq_iff_eq.2 hPreflight.2), Session.runWith_pure]
  · obtain ⟨made, answer, final, hRun, hCalls, hHandles⟩ :=
      server.exists_handles_dispatch (server.counted counted message) message store trace
    obtain ⟨headers, hHandle⟩ := server.runWith_handle hPreflight hRun
    exact ⟨made, _, _, final, hHandle, hCalls, hHandles.withHeaders headers⟩

end Handling

end N1qlConnector.Http
