import N1qlConnector.Proofs.Http.Handling
import N1qlConnector.Proofs.Store.IndexFailure

/-!
# What becomes of a store's failure

A store that fails ends the request, and the caller is told what the store said. The exception is
the inference of collections: one that fails only leaves its collection out, and the rest goes on.
Which of the two it is depends on the call and the path alone, not on what failed before.

## Main results

* `Server.handle_of_error` : what a request that meets an error of a store is answered with.
-/

namespace N1qlConnector

/-- A store that fails whatever it is asked. -/
def Store.down (error : StoreError) : Store := fun _ call =>
  match call with
  | .query .. => .error error
  | .listScopes _ => .error error
  | .ping => .error error
  | .diagnostics => .error error

namespace Http

/-- A body tells of an error. Failures of an index are expected, all others are not. -/
structure Body.Tells (body : Body) (error : StoreError) : Prop where
  indexFailure : error.MeansIndex →
    body = .json (.object
      [("message", .string ("Backend index failure: " ++ error.message)),
        ("details", error.details)])
  unknown : ¬error.MeansIndex →
    body = .json (.object
      [("message", .string ("Unknown error: " ++ error.message)),
        ("type", .string "uncaught-error"), ("details", error.details)])

/-- The error of a call does not end the request. -/
def Message.PassesOver (message : Message) (call : Call) : Prop :=
  message.path = "/schema" ∧ ∃ statement parameters context,
    call = .query statement parameters context

section Failing

variable {message : Message} {route : Route} {call : Call} {metered : Bool}

theorem Reply.tells_ofStoreError (error : StoreError) :
    (Reply.ofFailure (.ofStoreError error)).body.Tells error := by
  constructor
  · intro hIndex
    rw [Failure.ofStoreError, if_pos (error.isIndexFailure_iff.2 hIndex)]
    rfl
  · intro hOther
    rw [Failure.ofStoreError, if_neg fun h => hOther (error.isIndexFailure_iff.1 h)]
    rfl

theorem Message.PassesOver.route_eq (h : message.PassesOver call)
    (hPath : Route.ofPath? metered message.path = some route) : route = .schema := by
  rw [h.1] at hPath
  cases metered <;> exact (Option.some.inj hPath).symm

/-- Errors that do not end the request are not the answer to it either. -/
theorem Message.PassesOver.not_surfaced (h : message.PassesOver call)
    (hPath : Route.ofPath? metered message.path = some route) : ¬route.Surfaced call := by
  obtain rfl := h.route_eq hPath
  obtain ⟨-, statement, parameters, context, rfl⟩ := h
  exact id

theorem Message.passesOver_of_not_surfaced
    (hPath : Route.ofPath? metered message.path = some route) (h : ¬route.Surfaced call) :
    message.PassesOver call := by
  have hEq : route.path = message.path := by simpa using List.find?_some hPath
  cases route with
  | schema =>
      cases call with
      | query statement parameters context => exact ⟨hEq.symm, statement, parameters, context, rfl⟩
      | listScopes _ | ping | diagnostics => exact absurd trivial h
  | capabilities | query | explain | raw | health | metrics => exact absurd trivial h

/-- Only inferences are passed over, and the tables that are left are answered with. -/
theorem Message.PassesOver.of_makes {config : Config} (h : message.PassesOver call)
    (hPath : Route.ofPath? metered message.path = some route) (hMakes : route.Makes config call) :
    route.okStatus = 200 ∧ ∃ place, call = config.inference place := by
  obtain rfl := h.route_eq hPath
  obtain ⟨-, statement, parameters, context, rfl⟩ := h
  rcases hMakes with hListing | hInference
  · cases hListing
  · exact ⟨rfl, hInference⟩

end Failing

/-- What a request that meets an error of a store is answered with. -/
theorem Server.handle_of_error {server : Server} {counted counted' : List (String × Nat)}
    {message : Message} {store : Store} {trace final : Trace} {reply : Reply}
    {before after : List Call} {call : Call} {error : StoreError}
    (hRun : Session.runWith (server.handle counted message) store trace =
      ((reply, counted'), final))
    (hCalls : final.calls = trace.calls ++ (before ++ call :: after))
    (hError : store.error? (trace.calls ++ before) call = some error) :
    (¬message.PassesOver call →
      after = [] ∧ reply.status = 500 ∧ (message.method = "HEAD" → reply.body = .empty) ∧
        (message.method ≠ "HEAD" → reply.body.Tells error)) ∧
    (message.PassesOver call →
      reply.status = 200 ∧
        ∃ config place, message.config = .ok config ∧ call = config.inference place) := by
  obtain ⟨made, reply', counted'', final', hRun', hMade, hHandles⟩ :=
    server.exists_handles counted message store trace
  obtain ⟨hReply, rfl⟩ := Prod.mk.inj (hRun.symm.trans hRun')
  obtain ⟨rfl, -⟩ := Prod.mk.inj hReply
  have hSplit : made = before ++ call :: after := List.append_cancel_left (hMade.symm.trans hCalls)
  have hMem : call ∈ made := hSplit ▸ List.mem_append_right _ List.mem_cons_self
  cases hHandles with
  | declined _ => exact absurd hMem List.not_mem_nil
  | served hPath hMethod hServes hStatus hBody =>
      obtain ⟨config, result, hConfig, hMakes, hEnds, hPassed, hOk, rfl⟩ :=
        hServes.of_ne_nil (List.ne_nil_of_mem hMem)
      rw [hStatus, hBody]
      constructor
      · intro hNot
        have hSurfaced := not_not.1 fun h => hNot (message.passesOver_of_not_surfaced hPath h)
        rw [hSplit] at hEnds
        obtain ⟨hAfter, rfl⟩ := hEnds.eq_of_error hSurfaced hError
        refine ⟨hAfter, Reply.status_ofStoreError error, fun hHead => if_pos hHead, fun hHead => ?_⟩
        rw [if_neg hHead]
        exact Reply.tells_ofStoreError error
      · intro hPasses
        obtain ⟨answer, rfl⟩ := hPassed call hMem (hPasses.not_surfaced hPath)
        obtain ⟨hSuccess, place, hCall⟩ := hPasses.of_makes hPath (hMakes call hMem)
        exact ⟨(hOk answer rfl).trans hSuccess, config, place, hConfig, hCall⟩

/-- A request for the schema of a bucket whose scopes cannot be listed for want of an index. -/
theorem Server.handle_of_error_listScopes :
    let error : StoreError := ⟨some 4000, "No INDEX available", .null⟩
    let message : Message :=
      { target := "/schema",
        headers := [("x-hasura-dataconnector-config", "\x7b\"bucket\":\"b\"\x7d")] }
    ∃ reply counted,
      Session.runWith (Server.handle {} [] message) (.down error) .empty =
        ((reply, counted), ⟨[.listScopes "b"], 0⟩) ∧
      reply.status = 500 ∧ reply.body.Tells error := by
  intro error message
  have hConfig : message.config = .ok (.ofBucket "b") := by with_unfolding_all rfl
  have hServe : Session.runWith (Server.serve {} [] message .schema) (.down error) .empty =
      (.ofFailure (.ofStoreError error), ⟨[.listScopes "b"], 0⟩) := by
    rw [Server.serve, hConfig]
    rfl
  have hPath : Route.ofPath? false message.path = some .schema := by decide
  have hDispatch := @Server.runWith_dispatch {} [] message _ _ _ .schema _ hPath rfl hServe
  obtain ⟨headers, hRun⟩ := @Server.runWith_handle {} [] message _ _ _ _ (by simp) hDispatch
  have hNot : ¬message.PassesOver (.listScopes "b") := by
    rintro ⟨-, _, _, _, hCall⟩
    cases hCall
  obtain ⟨-, hStatus, -, hBody⟩ :=
    (@Server.handle_of_error _ _ _ _ _ .empty _ _ [] [] (.listScopes "b") error hRun rfl rfl).1 hNot
  exact ⟨_, _, hRun, hStatus, hBody (by decide)⟩

end Http

end N1qlConnector
