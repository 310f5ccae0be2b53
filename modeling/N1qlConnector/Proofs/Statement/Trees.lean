import N1qlConnector.Proofs.Nesting
import N1qlConnector.Proofs.Statement.Outline

/-!
# Facts about the trees of statements

A formula is written down before or after its atoms are replaced; the tree is the same. Writing it
down adds comparisons of numbers at most, and those have no parameters.

The comparisons that have a parameter are listed by `bound`, those of a statement before those of the
statements that it reads from.

## Main results

* `map_asWritten`, `asWritten_map` : replacing atoms and writing down commute.
* `bound_atoms_asWritten` : writing down adds no comparison with a parameter.
-/

namespace N1qlConnector.Statement

/-! ## Parameters -/

section Parameters

variable {π ρ : Type}

def Side.parameters : Side π → List π
  | parameter found => [found]
  | _ => []

def Predicate.parameters : Predicate π → List π
  | isNull left => left.parameters
  | compare left _ right => left.parameters ++ right.parameters
  | isIn left right => left.parameters ++ right.parameters

theorem Side.parameters_map (f : π → ρ) (side : Side π) :
    (side.map f).parameters = side.parameters.map f := by
  cases side <;> rfl

theorem Predicate.parameters_map (f : π → ρ) (predicate : Predicate π) :
    (predicate.map f).parameters = predicate.parameters.map f := by
  cases predicate <;> simp [map, parameters, Side.parameters_map]

/-- The comparisons that have a parameter. -/
def bound (predicates : List (Predicate π)) : List (Predicate π) :=
  predicates.filter fun predicate => !predicate.parameters.isEmpty

@[simp] theorem bound_nil : bound ([] : List (Predicate π)) = [] := rfl

@[simp] theorem bound_append (first second : List (Predicate π)) :
    bound (first ++ second) = bound first ++ bound second :=
  List.filter_append ..

theorem flatMap_parameters_bound (predicates : List (Predicate π)) :
    (bound predicates).flatMap Predicate.parameters = predicates.flatMap Predicate.parameters := by
  induction predicates with
  | nil => rfl
  | cons first rest ih =>
      cases hParameters : first.parameters with
      | nil => simpa [bound, hParameters] using ih
      | cons parameter others => simpa [bound, hParameters] using ih

theorem bound_flatMap {γ : Type} (f : γ → List (Predicate π)) (parts : List γ) :
    bound (parts.flatMap f) = parts.flatMap fun part => bound (f part) :=
  List.filter_flatMap

/-- The comparisons of a statement and of all statements that it reads from. -/
def Outline.predicates : Outline π → List (Predicate π)
  | ⟨_, _, _, bindings, condition, _, _, _⟩ =>
    (condition.map Formula.atoms).getD [] ++ ofBindings bindings
where
  /-- The comparisons of all bound statements. -/
  ofBindings : List (String × Option (Outline π)) → List (Predicate π)
    | [] => []
    | (_, none) :: rest => ofBindings rest
    | (_, some outline) :: rest => outline.predicates ++ ofBindings rest

end Parameters

/-! ## Writing formulas down -/

section Written

variable {α β π ρ : Type}

theorem asWritten_map (predicate : β → Predicate π) (f : α → β) (formula : Formula α) :
    asWritten predicate (formula.map f) = asWritten (fun a => predicate (f a)) formula := by
  induction formula using Formula.induct with
  | atom a => rfl
  | not part ih => rw [Formula.map, asWritten, asWritten, ih]
  | combination parts ih =>
      have hParts : parts.map (asWritten predicate ∘ Formula.map f) =
          parts.map (asWritten fun a => predicate (f a)) := List.map_congr_left ih
      constructor
      · rw [Formula.map_all, asWritten_all, asWritten_all, List.map_map, hParts]
      · rw [Formula.map_any, asWritten_any, asWritten_any, List.map_map, hParts]

/-- Replacing atoms goes through a connective that is left out for a single part. -/
theorem map_gather {f : α → β} {connective : List (Formula α) → Formula α}
    {connective' : List (Formula β) → Formula β}
    (h : ∀ parts, (connective parts).map f = connective' (parts.map (Formula.map f)))
    (parts : List (Formula α)) :
    (gather connective parts).map f = gather connective' (parts.map (Formula.map f)) := by
  match parts with
  | [] => exact h []
  | [part] => rfl
  | first :: second :: rest => exact h (first :: second :: rest)

theorem map_combined {f : π → ρ}
    {connective : List (Formula (Predicate π)) → Formula (Predicate π)}
    {connective' : List (Formula (Predicate ρ)) → Formula (Predicate ρ)} {truth : Nat}
    (h : ∀ parts, (connective parts).map (Predicate.map f) =
      connective' (parts.map (Formula.map (Predicate.map f))))
    (parts : List (Formula (Predicate π))) :
    (combined connective truth parts).map (Predicate.map f) =
      combined connective' truth (parts.map (Formula.map (Predicate.map f))) := by
  cases parts with
  | nil => rfl
  | cons first rest => exact map_gather h (first :: rest)

theorem map_asWritten (predicate : α → Predicate π) (f : π → ρ) (formula : Formula α) :
    (asWritten predicate formula).map (Predicate.map f) =
      asWritten (fun a => (predicate a).map f) formula := by
  induction formula using Formula.induct with
  | atom a => rfl
  | not part ih => rw [asWritten, asWritten, Formula.map, ih]
  | combination parts ih =>
      have hParts : parts.map (Formula.map (Predicate.map f) ∘ asWritten predicate) =
          parts.map (asWritten fun a => (predicate a).map f) := List.map_congr_left ih
      constructor
      · rw [asWritten_all, asWritten_all, map_combined (Formula.map_all _), List.map_map, hParts]
      · rw [asWritten_any, asWritten_any, map_combined (Formula.map_any _), List.map_map, hParts]

theorem atoms_gather {connective : List (Formula α) → Formula α}
    (h : ∀ parts, (connective parts).atoms = parts.flatMap Formula.atoms)
    (parts : List (Formula α)) : (gather connective parts).atoms = parts.flatMap Formula.atoms := by
  match parts with
  | [] => exact h []
  | [part] => simp [gather]
  | first :: second :: rest => exact h (first :: second :: rest)

theorem bound_atoms_combined
    {connective : List (Formula (Predicate π)) → Formula (Predicate π)} (truth : Nat)
    (h : ∀ parts, (connective parts).atoms = parts.flatMap Formula.atoms)
    (parts : List (Formula (Predicate π))) :
    bound (combined connective truth parts).atoms =
      parts.flatMap fun part => bound part.atoms := by
  cases parts with
  | nil => rfl
  | cons first rest => exact (congrArg bound (atoms_gather h _)).trans (bound_flatMap _ _)

theorem bound_atoms_asWritten (predicate : α → Predicate π) (formula : Formula α) :
    bound (asWritten predicate formula).atoms = bound (formula.atoms.map predicate) := by
  induction formula using Formula.induct with
  | atom a => rfl
  | not part ih => exact ih
  | combination parts ih =>
      have hParts : parts.flatMap (fun part => bound (asWritten predicate part).atoms) =
          parts.flatMap fun part => bound (part.atoms.map predicate) := List.flatMap_congr ih
      constructor
      · rw [asWritten_all, bound_atoms_combined 1 Formula.atoms_all, List.flatMap_map, hParts,
          Formula.atoms_all, List.map_flatMap, bound_flatMap]
      · rw [asWritten_any, bound_atoms_combined 0 Formula.atoms_any, List.flatMap_map, hParts,
          Formula.atoms_any, List.map_flatMap, bound_flatMap]

end Written

end N1qlConnector.Statement
