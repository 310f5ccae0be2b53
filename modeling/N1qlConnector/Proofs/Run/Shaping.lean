import Mathlib.Data.List.Forall2
import N1qlConnector.Proofs.Entries
import N1qlConnector.Run.Shape

/-!
# What shaped rows hold

A shaped row is a row of the store laid over a row that has a `null` for every field. Laying one map
over another moves no key of the map below and changes no value of the map on top, whichever keys
they share. That is all there is to shaping: the order of the fields comes from below, the values
come from on top, and a `null` shows through where there is nothing on top.

`Row.Completes` says this of two rows without naming the function. It leaves no choice, so a row that
completes itself is not changed by shaping it again.

## Main results

* `Entries.keys_extend`, `Entries.lookup_extend` : one map laid over another.
* `Row.completes_shape`, `Row.Completes.unique` : what a shaped row holds, and that nothing else does.
* `QueryResponse.shape_completes` : all rows of an answer.
-/

namespace N1qlConnector

/-! ## Rows -/

namespace Row

open Entries

/-- One row is the other with a place for every field. -/
structure Completes (names : List String) (row shaped : Row) : Prop where
  /-- The fields in the order of the request, and then what nobody asked for in the order of the
  row. -/
  keys_eq : Entries.keys shaped = names ++ (Entries.keys row).filter (· ∉ names)
  nodup : (Entries.keys shaped).Nodup
  /-- Every value of the row is kept, a `null` too. -/
  present : ∀ key ∈ Entries.keys row, shaped.lookup key = row.lookup key
  absent : ∀ name ∈ names, name ∉ Entries.keys row → shaped.lookup name = some .null

section Shape

variable {names : List String} {row : Row}

theorem keys_map_null (names : List String) :
    Entries.keys (names.map fun name => (name, Json.null)) = names := by
  rw [Entries.keys, List.map_map]
  exact List.map_id names

theorem ofNames_eq_map (h : names.Nodup) : ofNames names = names.map fun name => (name, .null) :=
  ofPairs_eq_self (by rwa [keys_map_null])

theorem keys_ofNames (h : names.Nodup) : Entries.keys (ofNames names) = names := by
  rw [ofNames_eq_map h, keys_map_null]

theorem lookup_ofNames (h : names.Nodup) {name : String} (hMem : name ∈ names) :
    (ofNames names).lookup name = some .null := by
  rw [ofNames_eq_map h]
  induction names with
  | nil => cases hMem
  | cons first rest ih =>
      rw [List.map_cons, List.lookup_cons]
      by_cases hSame : name = first
      · rw [beq_iff_eq.2 hSame]
      · rw [beq_false_of_ne hSame]
        exact ih (List.nodup_cons.1 h).2 ((List.mem_cons.1 hMem).resolve_left hSame)

theorem completes_shape (hNames : names.Nodup) (hRow : (Entries.keys row).Nodup) :
    Completes names row (shape names row) where
  keys_eq := by rw [shape, keys_extend hRow, keys_ofNames hNames]
  nodup := nodup_keys_extend (nodup_keys_ofPairs _)
  present := by
    intro key hMem
    rw [shape, lookup_extend hRow]
    cases hValue : row.lookup key with
    | none => exact absurd hMem (lookup_eq_none_iff.1 hValue)
    | some value => rfl
  absent := by
    intro name hMem hAbsent
    rw [shape, lookup_extend hRow, lookup_eq_none_iff.2 hAbsent, Option.none_or,
      lookup_ofNames hNames hMem]

/-- A row can be completed in one way only. -/
theorem Completes.unique {first second : Row} (hFirst : Completes names row first)
    (hSecond : Completes names row second) : first = second := by
  refine eq_of_lookup hFirst.nodup (hFirst.keys_eq.trans hSecond.keys_eq.symm) fun key hMem => ?_
  by_cases hOwn : key ∈ Entries.keys row
  · rw [hFirst.present key hOwn, hSecond.present key hOwn]
  · -- A key of neither kind is not there at all.
    have hName : key ∈ names := by
      rw [hFirst.keys_eq, List.mem_append] at hMem
      exact hMem.resolve_right fun hFilter => hOwn (List.mem_of_mem_filter hFilter)
    rw [hFirst.absent key hName hOwn, hSecond.absent key hName hOwn]

/-- A completed row is complete. -/
theorem Completes.self {shaped : Row} (h : Completes names row shaped) :
    Completes names shaped shaped where
  keys_eq := by
    have hNames : names.filter (· ∉ names) = [] := by simp
    rw [h.keys_eq, List.filter_append, hNames, List.nil_append, List.filter_filter]
    simp
  nodup := h.nodup
  present _ _ := rfl
  absent name hMem hAbsent := by
    rw [h.keys_eq, List.mem_append, not_or] at hAbsent
    exact absurd hMem hAbsent.1

theorem shape_shape (hNames : names.Nodup) (hRow : (Entries.keys row).Nodup) :
    shape names (shape names row) = shape names row := by
  have hShaped := completes_shape hNames hRow
  exact (completes_shape hNames hShaped.nodup).unique hShaped.self

end Shape

end Row

/-! ## Answers -/

/-- The rows of an answer are those of the store, each with a place for every field; the aggregates
are the ones of the store; and shaping the answer again changes nothing. -/
theorem QueryResponse.shape_completes {names : List String} {rows : List Row} (hNames : names.Nodup)
    (hRows : ∀ row ∈ rows, (Entries.keys row).Nodup) (aggregates : Option Row) :
    let response := QueryResponse.shape names rows aggregates
    List.Forall₂ (Row.Completes names) rows response.rows ∧
      response.aggregates = aggregates ∧
      QueryResponse.shape names response.rows response.aggregates = response := by
  intro response
  refine ⟨?_, rfl, ?_⟩
  · show List.Forall₂ (Row.Completes names) rows (rows.map (Row.shape names))
    rw [List.forall₂_map_right_iff, List.forall₂_same]
    exact fun row hMem => Row.completes_shape hNames (hRows row hMem)
  · have hAgain : (rows.map (Row.shape names)).map (Row.shape names) =
        rows.map (Row.shape names) := by
      rw [List.map_map]
      exact List.map_congr_left fun row hMem => Row.shape_shape hNames (hRows row hMem)
    exact congrArg (QueryResponse.mk · aggregates) hAgain

/-- A row that has the fields in another order, a `null` of its own, and something else before them. -/
theorem shape_completes_disordered :
    let names := ["id", "status", "total"]
    let row : Row := [("extra", .bool true), ("total", .null), ("id", .string "o1")]
    let shaped : Row := [("id", .string "o1"), ("status", .null), ("total", .null),
      ("extra", .bool true)]
    names.Nodup ∧ (∀ found ∈ [row], (Entries.keys found).Nodup) ∧
      QueryResponse.shape names [row] none = ⟨[shaped], none⟩ ∧ Row.Completes names row shaped := by
  intro names row shaped
  have hNames : names.Nodup := by decide
  have hRows : ∀ found ∈ [row], (Entries.keys found).Nodup := by decide
  obtain ⟨hCompletes, -, -⟩ := QueryResponse.shape_completes hNames hRows none
  cases hCompletes with
  | cons hRow _ => exact ⟨hNames, hRows, rfl, hRow⟩

end N1qlConnector
