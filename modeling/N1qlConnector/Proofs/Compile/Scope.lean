import Mathlib.Data.List.Induction
import N1qlConnector.Compile.Scope
import N1qlConnector.Proofs.Statement.FreshName

/-!
# Scopes that compiling meets

Compiling starts in the scope of a table and goes from there into nested scopes. In all of them the
alias of the rows is none of the aliases around, so it hides no other row, and the names of
parameters begin with something.

One step inwards takes an alias that is not on the list of aliases around, whatever was put on that
list by the steps before. So no property of earlier aliases is needed but that they are apart, and
tables that lead back to themselves or have names like the ones that are made up do no harm.

## Main results

* `Scope.Reachable.rowAlias_notMem` : aliases do not repeat on the way inwards.
* `Scope.along_apart` : what the scope at the end of a chain of relationships knows of the chain.
-/

namespace N1qlConnector

open Statement

namespace Scope

/-- A scope that is nested to some depth in the scope of a table. -/
inductive Reachable : Scope → Prop
  | root (table : TableName) : Reachable (root table)
  | nested {scope : Scope} (h : Reachable scope) (table : TableName) (field : String) :
      Reachable (scope.nested table field)

theorem freshAlias_notMem (taken : List String) (table : TableName) (field : String) :
    freshAlias taken table field ∉ taken := by
  unfold freshAlias
  split
  · exact freshName_notMem _ _
  · next hFree => exact hFree

theorem rowAlias_nested_notMem (scope : Scope) (table : TableName) (field : String) :
    (scope.nested table field).rowAlias ∉ scope.ancestors ++ [scope.rowAlias] :=
  freshAlias_notMem _ table field

/-- A nested query never reads its rows under the alias of the query around. -/
theorem rowAlias_nested_ne (scope : Scope) (table : TableName) (field : String) :
    (scope.nested table field).rowAlias ≠ scope.rowAlias := by
  intro hEq
  exact rowAlias_nested_notMem scope table field (by simp [hEq])

theorem stem_nested_ne {scope : Scope} (table : TableName) (field : String) :
    (scope.nested table field).stem ≠ "" := by
  intro hEmpty
  have hMark := (String.append_eq_empty_iff.1 hEmpty).2
  exact absurd hMark (by decide)

namespace Reachable

variable {scope : Scope}

theorem stem_ne (h : scope.Reachable) : scope.stem ≠ "" := by
  cases h with
  | root table => exact (by decide : "p_" ≠ "")
  | nested h table field => exact stem_nested_ne table field

theorem rowAlias_notMem (h : scope.Reachable) : scope.rowAlias ∉ scope.ancestors := by
  cases h with
  | root table => exact List.not_mem_nil
  | nested h table field => exact rowAlias_nested_notMem _ table field

end Reachable

/-! ## Chains of relationships -/

/-- The aliases from the outermost query to this one are different, and the enclosing alias is the
one before the last. At the root it is the only one. -/
structure KeepsApart (scope : Scope) : Prop where
  nodup : (scope.ancestors ++ [scope.rowAlias]).Nodup
  enclosing : scope.enclosing = scope.ancestors.getLast?.getD scope.rowAlias

theorem keepsApart_root (table : TableName) : (root table).KeepsApart where
  nodup := List.nodup_singleton _
  enclosing := rfl

theorem KeepsApart.nested {scope : Scope} (h : scope.KeepsApart) (table : TableName)
    (field : String) : (scope.nested table field).KeepsApart where
  nodup := by
    have hFresh := rowAlias_nested_notMem scope table field
    have hDisjoint : List.Disjoint (scope.ancestors ++ [scope.rowAlias])
        [(scope.nested table field).rowAlias] := by
      intro found hAround hOwn
      obtain rfl := List.mem_singleton.1 hOwn
      exact hFresh hAround
    exact h.nodup.append (List.nodup_singleton _) hDisjoint
  enclosing := by
    have hLast : (scope.ancestors ++ [scope.rowAlias]).getLast? = some scope.rowAlias :=
      List.getLast?_concat
    show scope.rowAlias = (scope.ancestors ++ [scope.rowAlias]).getLast?.getD _
    rw [hLast]
    rfl

theorem Reachable.keepsApart {scope : Scope} (h : scope.Reachable) : scope.KeepsApart := by
  induction h with
  | root table => exact keepsApart_root table
  | nested _ table field ih => exact ih.nested table field

/-- The scope at the end of a chain that starts at the scope of a table. Every step goes to a table
by a field, the outermost step first. -/
def along (table : TableName) (steps : List (TableName × String)) : Scope :=
  steps.foldl (fun scope step => scope.nested step.1 step.2) (root table)

theorem along_concat (table : TableName) (steps : List (TableName × String))
    (step : TableName × String) :
    along table (steps ++ [step]) = (along table steps).nested step.1 step.2 := by
  rw [along, List.foldl_append]
  rfl

theorem reachable_along (table : TableName) (steps : List (TableName × String)) :
    (along table steps).Reachable := by
  induction steps using List.reverseRecOn with
  | nil => exact .root table
  | append_singleton steps step ih =>
      rw [along_concat]
      exact ih.nested step.1 step.2

/-- The ancestors are the aliases of all scopes that the chain went through. -/
theorem ancestors_along (table : TableName) (steps : List (TableName × String)) :
    (along table steps).ancestors =
      (List.range steps.length).map fun n => (along table (steps.take n)).rowAlias := by
  induction steps using List.reverseRecOn with
  | nil => rfl
  | append_singleton steps step ih =>
      have hOuter : ∀ n ∈ List.range steps.length,
          (along table ((steps ++ [step]).take n)).rowAlias =
            (along table (steps.take n)).rowAlias := by
        intro n hn
        have hLe : n ≤ steps.length := by
          have hLt := List.mem_range.1 hn
          omega
        rw [List.take_append_of_le_length hLe]
      have hOwn : (steps ++ [step]).take steps.length = steps := List.take_left
      rw [along_concat, List.length_append, List.length_singleton, List.range_succ,
        List.map_append, List.map_congr_left hOuter, List.map_singleton, hOwn, ← ih]
      rfl

/-- The stem of an inner scope is that of an outer one with a word for every field in between. -/
theorem stem_along_append (table : TableName) (outer inner : List (TableName × String)) :
    (along table (outer ++ inner)).stem =
      (along table outer).stem ++ String.join (inner.map fun step => bareWord step.2 ++ "_") := by
  induction inner using List.reverseRecOn with
  | nil => simp
  | append_singleton inner step ih =>
      rw [← List.append_assoc, along_concat, List.map_append]
      show (along table (outer ++ inner)).stem ++ bareWord step.2 ++ "_" = _
      rw [ih]
      simp [String.append_assoc]

/-- At the end of any chain the ancestors are the aliases of the enclosing scopes, the outermost
first; they and the alias of the scope itself are all different; the enclosing alias is the last of
them, or the scope's own at the root; and the stem of every enclosing scope is extended by one word
and an underscore for each step. -/
theorem along_apart (table : TableName) (steps : List (TableName × String)) :
    (along table steps).ancestors =
        (List.range steps.length).map (fun n => (along table (steps.take n)).rowAlias) ∧
      ((along table steps).ancestors ++ [(along table steps).rowAlias]).Nodup ∧
      (along table steps).enclosing =
        (along table steps).ancestors.getLast?.getD (along table steps).rowAlias ∧
      (along table steps).isNested = !steps.isEmpty ∧
      ∀ n, (along table steps).stem = (along table (steps.take n)).stem ++
        String.join ((steps.drop n).map fun step => bareWord step.2 ++ "_") := by
  have hApart := (reachable_along table steps).keepsApart
  have hAncestors := ancestors_along table steps
  refine ⟨hAncestors, hApart.nodup, hApart.enclosing, ?_, ?_⟩
  · rw [isNested, hAncestors]
    cases steps with
    | nil => rfl
    | cons first rest => simp [List.range_succ_eq_map]
  · intro n
    have hSplit := stem_along_append table (steps.take n) (steps.drop n)
    rwa [List.take_append_drop] at hSplit

/-- A table that leads back to itself, by way of one whose name is the alias made up for it. -/
example : (along ⟨["a"]⟩ [(⟨["A"]⟩, "b"), (⟨["a_b"]⟩, "c"), (⟨["a"]⟩, "b")]).ancestors =
      ["a", "a_b", "a_b_c"] ∧
    (along ⟨["a"]⟩ [(⟨["A"]⟩, "b"), (⟨["a_b"]⟩, "c"), (⟨["a"]⟩, "b")]).rowAlias = "a_b_1" :=
  ⟨rfl, rfl⟩

end Scope

end N1qlConnector
