import N1qlConnector.Proofs.Http.Timing

/-!
# Which requests are counted

Requests are counted before they are looked at, so what becomes of a request has no part in the
count: one that is refused, or that no route serves, counts as much as one that succeeds. Only what
is answered in front of the counter is missed, and that is the question what scripts of other origins
may do. So the counters fall short of the number of requests by exactly these questions.

A counter is kept under the route that a request matches, and under the path of a request that
matches none. One step adds one to one counter or leaves all of them alone, and by induction the
counters after a run are those before it and the requests of the run, label by label.

## Main results

* `Server.counted_handle` : what one request does to the counters.
* `Server.counters_handleEach` : the counters after a run against the requests that were handled.
* `Server.runWith_handle_metrics` : who asks for the counters is counted and told of it.
-/

namespace N1qlConnector

/-- The sum of all values. -/
def Entries.total (entries : Entries Nat) : Nat :=
  entries.foldr (fun entry total => entry.2 + total) 0

/-- An insertion changes the sum of the values by the value that it replaces. -/
theorem Entries.total_insert (entries : Entries Nat) (key : String) (value : Nat) :
    (entries.insert key value).total + (entries.lookup key).getD 0 = entries.total + value := by
  induction entries with
  | nil => simp [insert, total]
  | cons entry rest ih =>
      obtain ⟨k, v⟩ := entry
      unfold total at ih ⊢
      by_cases hSame : k = key
      · subst hSame
        rw [insert, if_pos rfl, List.lookup_cons_self, Option.getD_some]
        simp only [List.foldr_cons]
        omega
      · have hLookup : List.lookup key ((k, v) :: rest) = rest.lookup key := by
          rw [List.lookup_cons, beq_false_of_ne (Ne.symm hSame)]
        rw [insert, if_neg hSame, hLookup]
        simp only [List.foldr_cons]
        omega

namespace Http

/-! ## Counters -/

/-- What was counted under a label. -/
def countOf (counted : List (String × Nat)) (label : String) : Nat := (counted.lookup label).getD 0

/-- What was counted under all labels together. -/
def countOfAll (counted : List (String × Nat)) : Nat := Entries.total counted

theorem countOf_count (counted : List (String × Nat)) (label other : String) :
    countOf (count counted label) other =
      countOf counted other + if other = label then 1 else 0 := by
  unfold countOf count
  rw [Entries.lookup_insert]
  by_cases hSame : other = label
  · rw [if_pos hSame, if_pos hSame, hSame]
    rfl
  · rw [if_neg hSame, if_neg hSame, Nat.add_zero]

theorem countOfAll_count (counted : List (String × Nat)) (label : String) :
    countOfAll (count counted label) = countOfAll counted + 1 := by
  have hTotal := Entries.total_insert counted label ((counted.lookup label).getD 0 + 1)
  unfold countOfAll count
  omega

/-! ## Requests -/

/-- The label that a request is counted under: the route that it matches, or else its path. -/
def Server.label (server : Server) (message : Message) : String :=
  match Route.ofPath? server.metered message.path with
  | some route => route.path
  | none => message.path

/-- Whether a request is counted: if anything is, and it gets as far as the counter. -/
def Server.counts (server : Server) (message : Message) : Bool :=
  server.metered && !(server.permissiveCors && message.method == "OPTIONS")

/-- Every route has a single path. -/
theorem Server.label_eq_path (server : Server) (message : Message) :
    server.label message = message.path := by
  unfold label
  split
  · rename_i route hRoute
    simpa using List.find?_some hRoute
  · rfl

/-- What has been counted once a request was handled. -/
def Server.countedWith (server : Server) (counted : List (String × Nat)) (message : Message) :
    List (String × Nat) :=
  if server.counts message then count counted (server.label message) else counted

/-- A request adds one under its label, whatever it is answered, unless it is not counted at all. -/
theorem Server.counted_handle (server : Server) (counted : List (String × Nat)) (message : Message)
    (store : Store) (trace : Trace) :
    (Session.runWith (server.handle counted message) store trace).1.2 =
      server.countedWith counted message := by
  unfold countedWith
  -- What is answered in front of the routes never gets to the counter, whatever its path.
  by_cases hPreflight : server.permissiveCors = true ∧ message.method = "OPTIONS"
  · have hCounts : server.counts message = false := by simp [counts, hPreflight]
    rw [hCounts, handle, if_pos hPreflight.1, if_pos (beq_iff_eq.2 hPreflight.2)]
    rfl
  · have hCounts : server.counts message = server.metered := by
      have hNot : (server.permissiveCors && message.method == "OPTIONS") = false := by
        simpa using hPreflight
      rw [counts, hNot, Bool.not_false, Bool.and_true]
    obtain ⟨headers, hRun⟩ := server.runWith_handle hPreflight
      (rfl : Session.runWith (server.dispatch (server.counted counted message) message) store
        trace = (_, _))
    rw [hRun, hCounts, server.label_eq_path]
    rfl

/-! ## Runs -/

section Runs

variable (server : Server) (counted : List (String × Nat)) (messages : List Message)

theorem countOf_foldl (label : String) :
    countOf (messages.foldl server.countedWith counted) label = countOf counted label +
      messages.countP fun message => server.counts message && server.label message == label := by
  induction messages generalizing counted with
  | nil => rfl
  | cons message rest ih =>
      rw [List.foldl_cons, ih, List.countP_cons, Server.countedWith]
      cases server.counts message with
      | false => rfl
      | true =>
          have hSame : (server.label message == label) = true ↔ label = server.label message :=
            beq_iff_eq.trans eq_comm
          simp only [if_true, countOf_count, Bool.true_and, hSame]
          omega

theorem countOfAll_foldl :
    countOfAll (messages.foldl server.countedWith counted) =
      countOfAll counted + messages.countP server.counts := by
  induction messages generalizing counted with
  | nil => rfl
  | cons message rest ih =>
      rw [List.foldl_cons, ih, List.countP_cons, Server.countedWith]
      cases server.counts message with
      | false => rfl
      | true =>
          rw [if_pos rfl, if_pos rfl, countOfAll_count]
          omega

/-- A run counts one request after the other. -/
theorem Server.exists_runWith_handleEach (store : Store) (trace : Trace) :
    ∃ replies final,
      Session.runWith (server.handleEach counted messages) store trace =
        ((replies, messages.foldl server.countedWith counted), final) ∧
      replies.length = messages.length := by
  induction messages generalizing counted trace with
  | nil => exact ⟨[], trace, rfl, rfl⟩
  | cons message rest ih =>
      have hStep := server.counted_handle counted message store trace
      rcases hRun : Session.runWith (server.handle counted message) store trace with
        ⟨⟨reply, counted'⟩, middle⟩
      rw [hRun] at hStep
      obtain rfl : counted' = server.countedWith counted message := hStep
      obtain ⟨replies, final, hRest, hLength⟩ := ih (server.countedWith counted message) middle
      refine ⟨reply :: replies, final, ?_, congrArg (· + 1) hLength⟩
      rw [handleEach, Session.runWith_bind, hRun]
      dsimp only
      rw [Session.runWith_bind, hRest]
      rfl

end Runs

/-- After a run every counter has gone up by the requests with its label that were counted, and all
of them together by as many as were counted. That is every request of a server that keeps counters,
but for those that ask what scripts may do where scripts are let in. -/
theorem Server.counters_handleEach (server : Server) (counted : List (String × Nat))
    (messages : List Message) (store : Store) (trace : Trace) :
    ∃ replies after final,
      Session.runWith (server.handleEach counted messages) store trace =
        ((replies, after), final) ∧
      replies.length = messages.length ∧
      (∀ label, countOf after label = countOf counted label +
        messages.countP fun message => server.counts message && server.label message == label) ∧
      countOfAll after = countOfAll counted + messages.countP server.counts ∧
      (countOfAll after = countOfAll counted + messages.length ↔
        ∀ message ∈ messages, server.counts message = true) := by
  obtain ⟨replies, final, hRun, hLength⟩ :=
    server.exists_runWith_handleEach counted messages store trace
  have hAll := countOfAll_foldl server counted messages
  refine ⟨replies, _, final, hRun, hLength, countOf_foldl server counted messages, hAll, ?_⟩
  rw [hAll, Nat.add_left_cancel_iff, List.countP_eq_length]

/-- The question what scripts may do is answered and not counted, the request after it is. -/
example :
    let store : Store := fun _ call =>
      match call with
      | .query .. => .ok []
      | .listScopes _ => .ok []
      | .ping => .ok ()
      | .diagnostics => .ok .null
    let messages : List Message :=
      [{ method := "OPTIONS", target := "/query" }, { target := "/capabilities" }]
    (Session.runWith (Server.handleEach { metered := true, permissiveCors := true } [] messages)
      store .empty).1.2 = [("/capabilities", 1)] := by
  decide +kernel

/-! ## Asking for the counters -/

/-- Who asks for the counters is counted first, and then told what has been counted. -/
theorem Server.runWith_handle_metrics {server : Server} (counted : List (String × Nat))
    {message : Message} (hMetered : server.metered = true) (hPath : message.path = "/metrics")
    (hMethod : message.method = "GET") (store : Store) (trace : Trace) :
    ∃ headers, Session.runWith (server.handle counted message) store trace =
      (({ Reply.text 200 with
          body := .metrics ⟨count counted "/metrics", trace.timed⟩ }.withHeaders headers,
        count counted "/metrics"), trace) := by
  have hCounted : server.counted counted message = count counted "/metrics" := by
    rw [Server.counted, if_pos hMetered, hPath]
  have hRoute : Route.ofPath? server.metered message.path = some .metrics := by
    rw [hMetered, hPath]
    rfl
  have hServes : Route.metrics.serves message.method = true := by
    rw [hMethod]
    rfl
  have hPreflight : ¬(server.permissiveCors = true ∧ message.method = "OPTIONS") := by
    rw [hMethod]
    exact fun h => absurd h.2 (by decide)
  have hDispatch := server.runWith_dispatch hRoute hServes
    (rfl : Session.runWith (server.serve (server.counted counted message) message .metrics) store
      trace = (_, _))
  rw [if_neg (by rw [hMethod]; decide)] at hDispatch
  obtain ⟨headers, hHandle⟩ := server.runWith_handle hPreflight hDispatch
  rw [hCounted] at hHandle
  exact ⟨headers, hHandle⟩

end Http

end N1qlConnector
