import Mathlib.Data.List.Basic
import N1qlConnector.Request.Query
import N1qlConnector.Statement.Select

/-!
# Induction over what nests

Formulas hold lists of formulas, statements hold lists of named statements, and queries hold lists
of fields with queries in them. The three principles below hide how the lists are wrapped: a
property of every part carries over to the whole. The functions that walk the lists are the maps one
expects, which is said here once for each.
-/

namespace N1qlConnector

/-! ## Formulas -/

/-- Conjunctions and disjunctions have parts in the same way, so both are one case. -/
theorem Formula.induct {α : Type} {motive : Formula α → Prop}
    (atom : ∀ a, motive (.atom a)) (not : ∀ part, motive part → motive (.not part))
    (combination : ∀ parts, (∀ part ∈ parts, motive part) →
      motive (.all parts) ∧ motive (.any parts))
    (formula : Formula α) : motive formula := by
  refine Formula.rec (motive_2 := fun parts => ∀ part ∈ parts, motive part)
    atom not (fun parts h => (combination parts h).1) (fun parts h => (combination parts h).2)
    ?_ ?_ formula
  · exact fun part hPart => absurd hPart List.not_mem_nil
  · intro first rest hFirst hRest part hPart
    rcases List.mem_cons.1 hPart with rfl | hMem
    · exact hFirst
    · exact hRest part hMem

namespace Formula

variable {α β : Type}

theorem mapEach_eq_map (f : α → β) (parts : List (Formula α)) :
    map.mapEach f parts = parts.map (map f) := by
  induction parts with
  | nil => rfl
  | cons part rest ih => rw [map.mapEach, ih, List.map_cons]

@[simp] theorem map_all (f : α → β) (parts : List (Formula α)) :
    (all parts).map f = all (parts.map (map f)) := by
  rw [map, mapEach_eq_map]

@[simp] theorem map_any (f : α → β) (parts : List (Formula α)) :
    (any parts).map f = any (parts.map (map f)) := by
  rw [map, mapEach_eq_map]

theorem atomsOfEach_eq_flatMap (parts : List (Formula α)) :
    atoms.atomsOfEach parts = parts.flatMap atoms := by
  induction parts with
  | nil => rfl
  | cons part rest ih => rw [atoms.atomsOfEach, ih, List.flatMap_cons]

@[simp] theorem atoms_all (parts : List (Formula α)) :
    (all parts).atoms = parts.flatMap atoms := by
  rw [atoms, atomsOfEach_eq_flatMap]

@[simp] theorem atoms_any (parts : List (Formula α)) :
    (any parts).atoms = parts.flatMap atoms := by
  rw [atoms, atomsOfEach_eq_flatMap]

theorem atoms_map (f : α → β) (formula : Formula α) :
    (formula.map f).atoms = formula.atoms.map f := by
  induction formula using induct with
  | atom a => rfl
  | not part ih => exact ih
  | combination parts ih =>
      have hParts : parts.flatMap (fun part => (part.map f).atoms) =
          parts.flatMap fun part => part.atoms.map f := List.flatMap_congr ih
      constructor
      · rw [map_all, atoms_all, atoms_all, List.flatMap_map, List.map_flatMap, hParts]
      · rw [map_any, atoms_any, atoms_any, List.flatMap_map, List.map_flatMap, hParts]

end Formula

/-! ## Statements -/

namespace Statement

@[simp] theorem texts_eq_map (tags : Tags) (parts : List Condition) :
    Condition.text.texts tags parts = parts.map (Condition.text tags) := by
  induction parts with
  | nil => rfl
  | cons part rest ih => rw [Condition.text.texts, ih, List.map_cons]

theorem Select.induct {motive : Select → Prop}
    (mk : ∀ items bindings rows,
      (∀ name select, (name, some select) ∈ bindings → motive select) →
      motive ⟨items, bindings, rows⟩)
    (select : Select) : motive select := by
  refine Select.rec (motive_1 := motive)
    (motive_2 := fun bindings => ∀ name select, (name, some select) ∈ bindings → motive select)
    (motive_3 := fun binding => ∀ select, binding.2 = some select → motive select)
    (motive_4 := fun found => ∀ select, found = some select → motive select)
    (fun items bindings rows h => mk items bindings rows h) ?_ ?_ ?_ ?_ ?_ select
  · exact fun name select hMem => absurd hMem List.not_mem_nil
  · intro first rest hFirst hRest name select hMem
    rcases List.mem_cons.1 hMem with hEq | hMem
    · exact hFirst select (by rw [← hEq])
    · exact hRest name select hMem
  · exact fun name found h => h
  · exact fun select h => absurd h (by simp)
  · exact fun inner h select hEq => Option.some.inj hEq ▸ h

end Statement

/-! ## Queries -/

/-- Fields may be left out in two ways. -/
theorem Query.fields_of_fieldList_eq_nil {query : Query} (h : query.fieldList = []) :
    query.fields = none ∨ query.fields = some [] := by
  cases hFields : query.fields with
  | none => exact .inl rfl
  | some fields =>
      rw [Query.fieldList, hFields] at h
      exact .inr (congrArg some h)

/-- A property of queries without fields, which carries over from the queries that the fields of a
query hold to the query. -/
theorem Query.induct {motive : Query → Prop}
    (empty : ∀ query : Query, query.fieldList = [] → motive query)
    (fields : ∀ first rest aggregates filter limit offset order,
      (∀ name relationship sub, (name, Field.relationship relationship sub) ∈ first :: rest →
        motive sub) → motive ⟨some (first :: rest), aggregates, filter, limit, offset, order⟩)
    (query : Query) : motive query := by
  refine Query.rec
    (motive_1 := fun field => ∀ relationship sub, field = .relationship relationship sub →
      motive sub)
    (motive_2 := motive)
    (motive_3 := fun fields => ∀ name relationship sub,
      (name, Field.relationship relationship sub) ∈ fields.getD [] → motive sub)
    (motive_4 := fun fields => ∀ name relationship sub,
      (name, Field.relationship relationship sub) ∈ fields → motive sub)
    (motive_5 := fun field => ∀ relationship sub, field.2 = .relationship relationship sub →
      motive sub)
    ?_ ?_ ?_ ?_ ?_ ?_ ?_ ?_ query
  · exact fun column columnType relationship sub h => by cases h
  · intro relationship query hQuery relationship' sub h
    cases h
    exact hQuery
  · intro found aggregates filter limit offset order h
    cases found with
    | none => exact empty _ rfl
    | some found =>
        cases found with
        | nil => exact empty _ rfl
        | cons first rest => exact fields first rest aggregates filter limit offset order h
  · exact fun name relationship sub h => absurd h List.not_mem_nil
  · exact fun fields h => h
  · exact fun name relationship sub h => absurd h List.not_mem_nil
  · intro first rest hFirst hRest name relationship sub hMem
    rcases List.mem_cons.1 hMem with hEq | hMem
    · exact hFirst relationship sub (by rw [← hEq])
    · exact hRest name relationship sub hMem
  · exact fun name field h => h

end N1qlConnector
