import Mathlib.Data.List.Perm.Basic
import N1qlConnector.Proofs.Compile.Requests
import N1qlConnector.Proofs.Entries

/-!
# The relationships that a query reaches

A request can declare any number of relationships, the same one several times over, and tables that
lead back to themselves. Of all this the compiler sees what its query leads it to: it looks up the
relationship of each field in the table that it has come to, and goes on from the table that this
relationship leads to.

Which relationships these are depends on the declarations themselves, so what two requests have to
agree in is listed for one of them. If they agree there, then the walk through the fields takes the
same way in both, and so does the compiler, which looks up nothing that the walk has not listed.

## Main results

* `Catalogue.find?_ofDeclared` : the catalogue holds the last declarations.
* `Query.compileWith_congr` : two runs of the compiler over declarations that agree where it looks.
* `Request.compile_eq_of_reached` : what a request declares beyond that makes no difference.
-/

namespace N1qlConnector

open Statement

/-! ## Last declarations -/

/-- Everything that is declared for a table, in the order of the declarations. -/
def declaredFor (declared : List TableRelationships) (table : TableName) : Entries Relationship :=
  (declared.filter (·.source = table)).flatMap (·.relationships)

/-- The relationship that was declared last for a table under a name. -/
def lastDeclared (declared : List TableRelationships) (table : TableName) (name : String) :
    Option Relationship :=
  (declaredFor declared table).reverse.lookup name

theorem declaredFor_append (first second : List TableRelationships) (table : TableName) :
    declaredFor (first ++ second) table = declaredFor first table ++ declaredFor second table := by
  rw [declaredFor, List.filter_append, List.flatMap_append]
  rfl

/-- Later declarations hide earlier ones. -/
theorem lastDeclared_append (first second : List TableRelationships) (table : TableName)
    (name : String) :
    lastDeclared (first ++ second) table name =
      (lastDeclared second table name).or (lastDeclared first table name) := by
  rw [lastDeclared, declaredFor_append, List.reverse_append, List.lookup_append]
  rfl

namespace Catalogue

theorem find?_eq_lookup (catalogue : Catalogue) (table : TableName) (name : String) :
    catalogue.find? table name =
      ((catalogue.declarations.filter (·.1 = table)).map Prod.snd).lookup name := by
  obtain ⟨declarations⟩ := catalogue
  unfold find?
  induction declarations with
  | nil => rfl
  | cons first rest ih =>
      obtain ⟨source, own, relationship⟩ := first
      by_cases hSource : source = table
      · by_cases hName : own = name
        · subst hSource hName
          simp
        · simpa [hSource, hName, beq_false_of_ne (Ne.symm hName), List.lookup_cons] using ih
      · simpa [hSource] using ih

/-- What the catalogue of a request knows under a name is what was declared last. -/
theorem find?_ofDeclared (declared : List TableRelationships) (table : TableName) (name : String) :
    (ofDeclared declared).find? table name = lastDeclared declared table name := by
  have hOwn : ((declared.flatMap fun source => source.relationships.map fun entry =>
      (source.source, entry.1, entry.2)).filter (·.1 = table)).map Prod.snd =
        declaredFor declared table := by
    induction declared with
    | nil => rfl
    | cons first rest ih =>
        rw [List.flatMap_cons, List.filter_append, List.map_append, ih]
        by_cases hSource : first.source = table
        · simp [declaredFor, hSource, List.filter_map, Function.comp_def]
        · simp [declaredFor, hSource, List.filter_map, Function.comp_def]
  rw [find?_eq_lookup, lastDeclared, ← hOwn, ofDeclared, List.filter_reverse, List.map_reverse]

end Catalogue

/-! ## What is looked up -/

mutual

/-- The relationships that are looked up on a walk through the fields of a query, each as the table
at which the walk has come and the name of the relationship there. From a relationship field the walk
goes on at the table that the relationship leads to, if it is declared. -/
def Query.reached (declared : List TableRelationships) (table : TableName) :
    Query → List (TableName × String)
  | ⟨none, _, _, _, _, _⟩ => []
  | ⟨some fields, _, _, _, _, _⟩ => reachedByFields declared table fields

/-- The part of the fields in this. -/
def reachedByFields (declared : List TableRelationships) (table : TableName) :
    List (String × Field) → List (TableName × String)
  | [] => []
  | (_, .column _ _) :: rest => reachedByFields declared table rest
  | (_, .relationship relationship query) :: rest =>
    (table, relationship) ::
      ((match lastDeclared declared table relationship with
        | none => []
        | some followed => query.reached declared followed.target) ++
        reachedByFields declared table rest)

end

/-- The relationships that a request reaches from its table. -/
def Request.reached (request : Request) : List (TableName × String) :=
  request.query.reached request.relationships request.table

/-- Two lists of declarations come to the same in some places. -/
def DeclareAlike (declared other : List TableRelationships) (places : List (TableName × String)) :
    Prop :=
  ∀ place ∈ places, lastDeclared other place.1 place.2 = lastDeclared declared place.1 place.2

instance (declared other : List TableRelationships) (places : List (TableName × String)) :
    Decidable (DeclareAlike declared other places) :=
  inferInstanceAs (Decidable (∀ place ∈ places, _ = _))

/-! ## Two runs -/

section Runs

variable {declared other : List TableRelationships} {config : Config}

theorem DeclareAlike.of_cons_append {place : TableName × String}
    {first second : List (TableName × String)}
    (h : DeclareAlike declared other (place :: (first ++ second))) :
    lastDeclared other place.1 place.2 = lastDeclared declared place.1 place.2 ∧
      DeclareAlike declared other first ∧ DeclareAlike declared other second := by
  obtain ⟨hPlace, hRest⟩ := List.forall_mem_cons.1 h
  exact ⟨hPlace, List.forall_mem_append.1 hRest⟩

theorem reachedByFields_congr {table : TableName} {fields : List (String × Field)}
    (hQueries : ∀ name relationship sub, (name, Field.relationship relationship sub) ∈ fields →
      ∀ table, DeclareAlike declared other (sub.reached declared table) →
        sub.reached other table = sub.reached declared table)
    (hAlike : DeclareAlike declared other (reachedByFields declared table fields)) :
    reachedByFields other table fields = reachedByFields declared table fields := by
  induction fields with
  | nil => rfl
  | cons first rest ih =>
      have hRest := ih fun name relationship sub hMem =>
        hQueries name relationship sub (List.mem_cons_of_mem _ hMem)
      obtain ⟨name, field⟩ := first
      cases field with
      | column column type =>
          rw [reachedByFields] at hAlike ⊢
          rw [hRest hAlike, reachedByFields]
      | relationship relationship sub =>
          rw [reachedByFields] at hAlike ⊢
          obtain ⟨hLast, hSub, hOthers⟩ := hAlike.of_cons_append
          rw [hLast, hRest hOthers, reachedByFields]
          cases hFollowed : lastDeclared declared table relationship with
          | none => rfl
          | some followed =>
              rw [hFollowed] at hSub
              have hSame := hQueries name relationship sub List.mem_cons_self followed.target hSub
              simp only [hSame]

/-- The walk takes the same way where the declarations agree on it. -/
theorem Query.reached_congr (query : Query) :
    ∀ table, DeclareAlike declared other (query.reached declared table) →
      query.reached other table = query.reached declared table := by
  induction query using Query.induct with
  | empty query hFields =>
      intro table _
      obtain ⟨fields, aggregates, own, ownLimit, offset, order⟩ := query
      rcases Query.fields_of_fieldList_eq_nil hFields with hNone | hNil
      · obtain rfl := hNone
        rfl
      · obtain rfl := hNil
        rfl
  | fields first rest aggregates own ownLimit offset order ih =>
      intro table hAlike
      rw [Query.reached] at hAlike ⊢
      rw [reachedByFields_congr ih hAlike, Query.reached]

/-- The fields of a query, from what is known of the queries in them. -/
theorem compileFields_congr {table : TableName} {fields : List (String × Field)}
    (hQueries : ∀ name relationship sub, (name, Field.relationship relationship sub) ∈ fields →
      ∀ table scope filter limit parameters,
        DeclareAlike declared other (sub.reached declared table) →
        sub.compileWith ⟨config, .ofDeclared other⟩ table scope filter limit parameters =
          sub.compileWith ⟨config, .ofDeclared declared⟩ table scope filter limit parameters)
    (hAlike : DeclareAlike declared other (reachedByFields declared table fields)) (scope : Scope)
    (parameters : Parameters) :
    compileFields ⟨config, .ofDeclared other⟩ table scope parameters fields =
      compileFields ⟨config, .ofDeclared declared⟩ table scope parameters fields := by
  induction fields generalizing parameters with
  | nil => rw [compileFields, compileFields]
  | cons first rest ih =>
      have hRest := ih fun name relationship sub hMem =>
        hQueries name relationship sub (List.mem_cons_of_mem _ hMem)
      obtain ⟨name, field⟩ := first
      cases field with
      | column column type =>
          rw [reachedByFields] at hAlike
          rw [compileFields, compileFields, hRest hAlike]
      | relationship relationship sub =>
          rw [reachedByFields] at hAlike
          obtain ⟨hLast, hSub, hOthers⟩ := hAlike.of_cons_append
          rw [compileFields, compileFields, Surroundings.relationship, Surroundings.relationship,
            Catalogue.find?_ofDeclared, Catalogue.find?_ofDeclared, hLast]
          cases hFollowed : lastDeclared declared table relationship with
          | none => rfl
          | some followed =>
              rw [hFollowed] at hSub
              have hQuery := fun scope filter limit parameters =>
                hQueries name relationship sub List.mem_cons_self followed.target scope filter limit
                  parameters hSub
              simp only [Bind.bind, Except.bind, hQuery, hRest hOthers]

/-- A query is compiled to the same, or refused for the same cause, over declarations that come to
the same wherever it looks. -/
theorem Query.compileWith_congr (query : Query) :
    ∀ table scope filter limit parameters,
      DeclareAlike declared other (query.reached declared table) →
      query.compileWith ⟨config, .ofDeclared other⟩ table scope filter limit parameters =
        query.compileWith ⟨config, .ofDeclared declared⟩ table scope filter limit parameters := by
  induction query using Query.induct with
  | empty query hFields =>
      intro table scope filter limit parameters _
      rw [compileWith_of_fieldList_eq_nil hFields, compileWith_of_fieldList_eq_nil hFields]
  | fields first rest aggregates own ownLimit offset order ih =>
      intro table scope filter limit parameters hAlike
      rw [Query.reached] at hAlike
      rw [Query.compileWith, Query.compileWith]
      simp only [compileFields_congr ih hAlike]

end Runs

/-! ## Other ways to declare the same -/

/-- The places that are declared, each as often as it is. -/
def declaredPlaces (declared : List TableRelationships) : List (TableName × String) :=
  declared.flatMap fun source => source.relationships.map fun entry => (source.source, entry.1)

theorem map_keys_declaredFor (declared : List TableRelationships) (table : TableName) :
    (declaredFor declared table).keys.map (table, ·) =
      (declaredPlaces declared).filter (·.1 = table) := by
  induction declared with
  | nil => rfl
  | cons first rest ih =>
      have hRest : declaredFor (first :: rest) table =
          declaredFor [first] table ++ declaredFor rest table := declaredFor_append [first] rest table
      have hPlaces : declaredPlaces (first :: rest) =
          declaredPlaces [first] ++ declaredPlaces rest := by simp [declaredPlaces]
      rw [hRest, hPlaces, Entries.keys_append, List.map_append, List.filter_append, ih]
      by_cases hSource : first.source = table
      · simp [declaredFor, declaredPlaces, Entries.keys, hSource, List.filter_map,
          Function.comp_def]
      · simp [declaredFor, declaredPlaces, hSource, List.filter_map, Function.comp_def]

/-- Declarations that declare nothing twice can be put in any order. -/
theorem lastDeclared_perm {declared other : List TableRelationships} (h : other.Perm declared)
    (hNodup : (declaredPlaces declared).Nodup) (table : TableName) (name : String) :
    lastDeclared other table name = lastDeclared declared table name := by
  have hKeys : ((declaredFor declared table).keys.map (table, ·)).Nodup := by
    rw [map_keys_declaredFor]
    exact hNodup.filter _
  have hReverse : (Entries.keys (declaredFor declared table).reverse).Nodup := by
    rw [Entries.keys, List.map_reverse, List.nodup_reverse]
    exact hKeys.of_map _
  have hPerm : (declaredFor declared table).reverse.Perm (declaredFor other table).reverse := by
    refine (List.reverse_perm _).trans (List.Perm.trans ?_ (List.reverse_perm _).symm)
    exact (h.symm.filter _).flatMap_right _
  exact (Entries.lookup_perm hPerm hReverse name).symm

/-- There is a last declaration where there is any. -/
theorem lastDeclared_eq_none_iff {declared : List TableRelationships} {table : TableName}
    {name : String} :
    lastDeclared declared table name = none ↔ (table, name) ∉ declaredPlaces declared := by
  have hPlace : (table, name) ∈ declaredPlaces declared ↔
      name ∈ (declaredFor declared table).keys := by
    have hFilter : (table, name) ∈ declaredPlaces declared ↔
        (table, name) ∈ (declaredPlaces declared).filter (·.1 = table) := by simp
    rw [hFilter, ← map_keys_declaredFor]
    simp
  rw [lastDeclared, Entries.lookup_eq_none_iff, hPlace, Entries.keys, List.map_reverse,
    List.mem_reverse]
  rfl

/-- The declarations of one table may be split into several. -/
theorem lastDeclared_split (before after : List TableRelationships) (source : TableName)
    (pieces : List (Entries Relationship)) (table : TableName) (name : String) :
    lastDeclared (before ++ pieces.map (TableRelationships.mk source) ++ after) table name =
      lastDeclared (before ++ ⟨source, pieces.flatten⟩ :: after) table name := by
  have hPieces : declaredFor (pieces.map (TableRelationships.mk source)) table =
      declaredFor [⟨source, pieces.flatten⟩] table := by
    by_cases hSource : source = table
    · simp [declaredFor, hSource, List.filter_map, Function.comp_def, List.flatMap_map]
    · simp [declaredFor, hSource, List.filter_map, Function.comp_def]
  have hWhole : before ++ ⟨source, pieces.flatten⟩ :: after =
      before ++ [⟨source, pieces.flatten⟩] ++ after := by simp
  rw [hWhole]
  unfold lastDeclared
  simp only [declaredFor_append, hPieces]

/-! ## Requests -/

namespace Request

/-- The same request with other declarations. -/
def redeclared (request : Request) (declared : List TableRelationships) : Request :=
  { request with relationships := declared }

variable {request other : Request}

/-- Requests that differ in their declarations only are compiled alike if these come to the same
wherever the query of the first one leads. -/
theorem compile_congr (hTable : other.table = request.table) (hQuery : other.query = request.query)
    (hAlike : DeclareAlike request.relationships other.relationships request.reached)
    (config : Config) (settings : Settings) :
    other.compile config settings = request.compile config settings := by
  obtain ⟨table, declared, query⟩ := request
  obtain ⟨table', declared', query'⟩ := other
  obtain rfl : table' = table := hTable
  obtain rfl : query' = query := hQuery
  have hRows : query'.compileRows ⟨config, .ofDeclared declared'⟩ table' (.root table') =
      query'.compileRows ⟨config, .ofDeclared declared⟩ table' (.root table') :=
    query'.compileWith_congr table' _ _ _ _ hAlike
  have hTotals : query'.compileTotals ⟨config, .ofDeclared declared'⟩ table' (.root table') =
      query'.compileTotals ⟨config, .ofDeclared declared⟩ table' (.root table') := rfl
  rw [compile_eq, compile_eq]
  simp only [surroundings, hRows, hTotals]

theorem compile_redeclared {declared : List TableRelationships}
    (hAlike : DeclareAlike request.relationships declared request.reached) (config : Config)
    (settings : Settings) :
    (request.redeclared declared).compile config settings = request.compile config settings :=
  @compile_congr request (request.redeclared declared) rfl rfl hAlike config settings

/-- What a request compiles to, or why it does not, is settled by its table, its query and the last
declaration in each place that the query reaches. Nothing else in the declarations counts: neither
what is declared where the query does not lead, nor how the declarations of a table are split, nor
the order of declarations of which none hides another. -/
theorem compile_eq_of_reached (request : Request) (config : Config) (settings : Settings) :
    (∀ other : Request, other.table = request.table → other.query = request.query →
      DeclareAlike request.relationships other.relationships request.reached →
      other.reached = request.reached ∧
        other.compile config settings = request.compile config settings) ∧
    (∀ before more after, request.relationships = before ++ after →
      (∀ place ∈ declaredPlaces more, place ∉ request.reached) →
      (request.redeclared (before ++ more ++ after)).compile config settings =
        request.compile config settings) ∧
    (∀ before source pieces after,
      request.relationships = before ++ TableRelationships.mk source (List.flatten pieces) :: after →
      (request.redeclared (before ++ pieces.map (TableRelationships.mk source) ++ after)).compile
        config settings = request.compile config settings) ∧
    ∀ declared, List.Perm declared request.relationships →
      (declaredPlaces request.relationships).Nodup →
      (request.redeclared declared).compile config settings =
        request.compile config settings := by
  refine ⟨?_, ?_, ?_, ?_⟩
  · intro other hTable hQuery hAlike
    refine ⟨?_, compile_congr hTable hQuery hAlike config settings⟩
    rw [reached, hTable, hQuery]
    exact request.query.reached_congr _ hAlike
  · intro before more after hDeclared hNew
    refine compile_redeclared (fun place hPlace => ?_) config settings
    have hNone : lastDeclared more place.1 place.2 = none :=
      lastDeclared_eq_none_iff.2 fun hMem => hNew place hMem hPlace
    rw [hDeclared, lastDeclared_append, lastDeclared_append, lastDeclared_append, hNone,
      Option.none_or]
  · intro before source pieces after hDeclared
    refine compile_redeclared (fun place _ => ?_) config settings
    rw [hDeclared]
    exact lastDeclared_split before after source pieces place.1 place.2
  · intro declared hPerm hNodup
    refine compile_redeclared (fun place _ => ?_) config settings
    exact lastDeclared_perm hPerm hNodup place.1 place.2

end Request

/-- A request that goes from `t` to `u`, back to `t`, and by the first relationship again. What it
declares first for `t` is hidden by what it declares last. -/
def cyclicRequest : Request where
  table := ⟨["t"]⟩
  relationships := [⟨⟨["t"]⟩, [("r", ⟨⟨["hidden"]⟩, .array, []⟩)]⟩,
    ⟨⟨["t"]⟩, [("r", ⟨⟨["u"]⟩, .object, [("a", "b"), ("c", "d")]⟩)]⟩,
    ⟨⟨["u"]⟩, [("s", ⟨⟨["t"]⟩, .array, [("e", "f")]⟩)]⟩]
  query := ⟨some [("x", .relationship "r" ⟨some [("y", .relationship "s" ⟨some [
    ("z", .relationship "r" ⟨some [("id", .column "id" none)], none, none, none, none, none⟩)],
    none, none, none, none, none⟩)], none, none, none, none, none⟩)], none, none, none, none, none⟩

theorem compile_eq_of_reached_cyclic :
    let more : List TableRelationships := [⟨⟨["t"]⟩, [("s", ⟨⟨["u"]⟩, .array, []⟩)]⟩]
    let others : List TableRelationships := [⟨⟨["u"]⟩, [("s", ⟨⟨["t"]⟩, .array, [("e", "f")]⟩)]⟩,
      ⟨⟨["v"]⟩, [("r", ⟨⟨["t"]⟩, .object, []⟩)]⟩,
      ⟨⟨["t"]⟩, [("q", ⟨⟨["u"]⟩, .array, []⟩),
        ("r", ⟨⟨["u"]⟩, .object, [("a", "b"), ("c", "d")]⟩)]⟩]
    cyclicRequest.reached = [(⟨["t"]⟩, "r"), (⟨["u"]⟩, "s"), (⟨["t"]⟩, "r")] ∧
      DeclareAlike cyclicRequest.relationships others cyclicRequest.reached ∧
      ∃ compiled, cyclicRequest.compile bucketConfig {} = .ok compiled ∧
        (cyclicRequest.redeclared others).compile bucketConfig {} = .ok compiled ∧
        (cyclicRequest.redeclared ([] ++ more ++ cyclicRequest.relationships)).compile bucketConfig
          {} = .ok compiled := by
  intro more others
  have hReached : cyclicRequest.reached = [(⟨["t"]⟩, "r"), (⟨["u"]⟩, "s"), (⟨["t"]⟩, "r")] := rfl
  have hAlike : DeclareAlike cyclicRequest.relationships others cyclicRequest.reached := by
    rw [hReached]
    decide
  have hNew : ∀ place ∈ declaredPlaces more, place ∉ cyclicRequest.reached := by
    rw [hReached]
    decide
  obtain ⟨compiled, hCompile⟩ : ∃ compiled,
      cyclicRequest.compile bucketConfig {} = .ok compiled := ⟨_, rfl⟩
  obtain ⟨hOther, hMore, -, -⟩ := cyclicRequest.compile_eq_of_reached bucketConfig {}
  obtain ⟨-, hOther⟩ := hOther (cyclicRequest.redeclared others) rfl rfl hAlike
  have hMore := hMore [] more cyclicRequest.relationships rfl hNew
  exact ⟨hReached, hAlike, compiled, hCompile, hOther.trans hCompile, hMore.trans hCompile⟩

end N1qlConnector
