import Mathlib.Data.List.Forall2
import Mathlib.Data.List.Nodup
import N1qlConnector.Proofs.Run.Inference

/-!
# What a column says of a property

For a property one type was inferred, or a list of them. A `null` in the list is no type that values
have; it says that a value may be missing. So a column reports the first type that is something else,
and apart from that whether there was a `null`.

This holds of lists. A type on its own is reported as it is, so a property of which nothing but
`null` was seen, and which is said to be so without a list around it, gets a column of the type
`null` that is never null. `IsBareNull` is this case, and `ColumnInfo.Describes` says what holds in
it and what in all others.

## Main results

* `describes_columnOf` : what the column of a property says.
* `columnsOfFlavor_describes` : all columns of a flavor.
-/

namespace N1qlConnector

/-! ## Properties -/

/-- The types that were inferred for a property. -/
def inferredTypes (property : Json) : List String :=
  match property.member? "type" with
  | some (.string single) => [single]
  | some (.array types) => types.filterMap Json.string?
  | _ => []

/-- The property is said to have the type `null`, and not in a list. -/
def IsBareNull (property : Json) : Prop := property.member? "type" = some (.string "null")

/-- The first type beside `null`, or the one of properties of which nothing else is known. -/
def typeBesideNull (types : List String) : String :=
  (types.filter (· != "null")).head?.getD "string"

/-- What a column says of a property. -/
structure ColumnInfo.Describes (column : ColumnInfo) (property : String × Json) : Prop where
  name : column.name = property.1
  /-- With `null` among the types the column is nullable, and of the first type beside it. -/
  nullable : "null" ∈ inferredTypes property.2 → ¬IsBareNull property.2 →
    column.nullable = true ∧ column.type = typeBesideNull (inferredTypes property.2)
  /-- Without it the column is not, and of the first type of all. -/
  required : inferredTypes property.2 ≠ [] → "null" ∉ inferredTypes property.2 →
    column.nullable = false ∧ (inferredTypes property.2).head? = some column.type
  /-- A `null` that stands alone is taken for a type like all others, and no other one is. -/
  bare : IsBareNull property.2 → column.nullable = false
  type_eq_null_iff : column.type = "null" ↔ IsBareNull property.2

/-! ## Types -/

theorem typeBesideNull_ne_null (types : List String) : typeBesideNull types ≠ "null" := by
  unfold typeBesideNull
  cases hFirst : (types.filter (· != "null")).head? with
  | none => exact fun h => absurd h (by decide : "string" ≠ "null")
  | some type =>
      have hMem := List.mem_of_mem_head? (Option.mem_def.2 hFirst)
      simpa using (List.mem_filter.1 hMem).2

theorem head?_of_notMem {types : List String} (hTypes : types ≠ []) (h : "null" ∉ types) :
    types.head? = some (typeBesideNull types) := by
  have hAll : types.filter (· != "null") = types :=
    List.filter_eq_self.2 fun type hMem => bne_iff_ne.2 fun hNull => h (hNull ▸ hMem)
  obtain ⟨first, rest, rfl⟩ := List.exists_cons_of_ne_nil hTypes
  rw [typeBesideNull, hAll]
  rfl

/-- A column that goes by the inferred types says what there is to be said. -/
theorem ColumnInfo.describes_of_types {column : ColumnInfo} {property : String × Json}
    (hName : column.name = property.1) (hBare : ¬IsBareNull property.2)
    (hType : column.type = typeBesideNull (inferredTypes property.2))
    (hNullable : inferredTypes property.2 ≠ [] →
      (column.nullable = true ↔ "null" ∈ inferredTypes property.2)) :
    column.Describes property where
  name := hName
  nullable hMem _ := ⟨(hNullable (List.ne_nil_of_mem hMem)).2 hMem, hType⟩
  required hTypes hNotMem :=
    ⟨Bool.eq_false_iff.2 (mt (hNullable hTypes).1 hNotMem), hType ▸ head?_of_notMem hTypes hNotMem⟩
  bare h := absurd h hBare
  type_eq_null_iff := iff_of_false (hType ▸ typeBesideNull_ne_null _) hBare

/-! ## Columns -/

/-- The column that is made of a property. -/
def columnOf (property : String × Json) : ColumnInfo :=
  ⟨property.1, (propertyType (property.2.member? "type")).2,
    (propertyType (property.2.member? "type")).1⟩

section Columns

variable {property : String × Json}

theorem describes_columnOf_single {single : String}
    (h : property.2.member? "type" = some (.string single)) :
    (columnOf property).Describes property := by
  have hColumn : columnOf property = ⟨property.1, false, single⟩ := by
    rw [columnOf, h]
    rfl
  have hTypes : inferredTypes property.2 = [single] := by rw [inferredTypes, h]
  have hBareIff : IsBareNull property.2 ↔ single = "null" := by
    rw [IsBareNull, h, Option.some.injEq, Json.string.injEq]
  rw [hColumn]
  by_cases hNull : single = "null"
  · have hBare := hBareIff.2 hNull
    refine ⟨rfl, fun _ h => absurd hBare h, fun _ h => ?_, fun _ => rfl, hBareIff.symm⟩
    exact absurd (hTypes ▸ List.mem_singleton.2 hNull.symm) h
  · refine ColumnInfo.describes_of_types rfl (mt hBareIff.1 hNull) ?_ fun _ => ?_
    · simp [hTypes, typeBesideNull, hNull]
    · simp [hTypes, Ne.symm hNull]

theorem describes_columnOf_list {types : List Json}
    (h : property.2.member? "type" = some (.array types)) :
    (columnOf property).Describes property := by
  have hTypes : inferredTypes property.2 = types.filterMap Json.string? := by rw [inferredTypes, h]
  have hColumn : columnOf property = ⟨property.1, (inferredTypes property.2).contains "null",
      typeBesideNull (inferredTypes property.2)⟩ := by
    rw [columnOf, h, hTypes, typeBesideNull, List.head?_filter]
    rfl
  have hBare : ¬IsBareNull property.2 := by
    rw [IsBareNull, h]
    exact nofun
  rw [hColumn]
  exact ColumnInfo.describes_of_types rfl hBare rfl fun _ => List.contains_iff_mem

/-- A type that is neither a text nor a list says nothing. -/
theorem describes_columnOf_untyped
    (hSingle : ∀ single, property.2.member? "type" ≠ some (.string single))
    (hList : ∀ types, property.2.member? "type" ≠ some (.array types)) :
    (columnOf property).Describes property := by
  have hColumn : columnOf property = ⟨property.1, true, "string"⟩ := by
    unfold columnOf propertyType
    split
    · rename_i single h
      exact absurd h (hSingle single)
    · rename_i types h
      exact absurd h (hList types)
    · rfl
  have hTypes : inferredTypes property.2 = [] := by
    unfold inferredTypes
    split
    · rename_i single h
      exact absurd h (hSingle single)
    · rename_i types h
      exact absurd h (hList types)
    · rfl
  rw [hColumn]
  refine ColumnInfo.describes_of_types rfl (hSingle "null") ?_ fun h => absurd hTypes h
  rw [hTypes]
  rfl

/-- The column of a property says what there is to be said, whatever was inferred. -/
theorem describes_columnOf (property : String × Json) : (columnOf property).Describes property := by
  by_cases hSingle : ∃ single, property.2.member? "type" = some (.string single)
  · obtain ⟨single, h⟩ := hSingle
    exact describes_columnOf_single h
  by_cases hList : ∃ types, property.2.member? "type" = some (.array types)
  · obtain ⟨types, h⟩ := hList
    exact describes_columnOf_list h
  · exact describes_columnOf_untyped (not_exists.1 hSingle) (not_exists.1 hList)

end Columns

/-! ## Flavors -/

theorem columnsOfFlavor_eq (flavor : Json) :
    columnsOfFlavor flavor =
      .documentKey :: ((propertiesOf flavor).filter (·.1 != "id")).map columnOf :=
  rfl

/-- The columns of a flavor are the one of the document key and one for every other property, in the
order of the properties, each of which says of its property what `ColumnInfo.Describes` lists. No two
properties of a flavor have the same name, and then no two columns have. -/
theorem columnsOfFlavor_describes (flavor : Json) :
    ∃ columns, columnsOfFlavor flavor = ⟨"id", false, "string"⟩ :: columns ∧
      List.Forall₂ ColumnInfo.Describes columns ((propertiesOf flavor).filter (·.1 != "id")) ∧
      ((Entries.keys (propertiesOf flavor)).Nodup → ∀ property ∈ propertiesOf flavor,
        ((columnsOfFlavor flavor).map ColumnInfo.name).count property.1 = 1) := by
  refine ⟨_, columnsOfFlavor_eq flavor, ?_, fun hKeys property hMem => ?_⟩
  · rw [List.forall₂_map_left_iff, List.forall₂_same]
    exact fun property _ => describes_columnOf property
  · have hNames : ((columnsOfFlavor flavor).map ColumnInfo.name).Nodup := by
      rw [names_columnsOfFlavor]
      exact List.nodup_cons.2 ⟨by simp, hKeys.filter _⟩
    refine List.count_eq_one_of_mem hNames ?_
    rw [names_columnsOfFlavor]
    by_cases hId : property.1 = "id"
    · rw [hId]
      exact List.mem_cons_self
    · refine List.mem_cons_of_mem _ (List.mem_filter.2 ⟨?_, bne_iff_ne.2 hId⟩)
      exact List.mem_map_of_mem hMem

/-- A `null` on its own next to one in a list. -/
theorem columnsOfFlavor_describes_bare :
    let flavor : Json := .object [("properties", .object [
      ("note", .object [("type", .string "null")]),
      ("tags", .object [("type", .array [.string "null", .string "array"])])])]
    columnsOfFlavor flavor =
      [⟨"id", false, "string"⟩, ⟨"note", false, "null"⟩, ⟨"tags", true, "array"⟩] ∧
    (Entries.keys (propertiesOf flavor)).Nodup ∧
    ∀ property ∈ propertiesOf flavor,
      ((columnsOfFlavor flavor).map ColumnInfo.name).count property.1 = 1 := by
  intro flavor
  have hKeys : (Entries.keys (propertiesOf flavor)).Nodup := by decide
  obtain ⟨-, -, -, hCount⟩ := columnsOfFlavor_describes flavor
  exact ⟨rfl, hKeys, hCount hKeys⟩

end N1qlConnector
