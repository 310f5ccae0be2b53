/-!
# Formulas

Filters of requests and conditions of statements are put together in the same way: with negation and
with conjunctions and disjunctions of any number of parts, over comparisons that differ between the
two. `Formula` is what they have in common.
-/

namespace N1qlConnector

/-- A combination of atoms. An empty conjunction is true, an empty disjunction false. -/
inductive Formula (α : Type) where
  | atom (atom : α)
  | not (part : Formula α)
  | all (parts : List (Formula α))
  | any (parts : List (Formula α))
  deriving Repr

namespace Formula

variable {α β : Type}

/-- Replaces every atom. -/
def map (f : α → β) : Formula α → Formula β
  | atom a => atom (f a)
  | not part => not (map f part)
  | all parts => all (mapEach f parts)
  | any parts => any (mapEach f parts)
where
  /-- Replaces every atom of every part. -/
  mapEach (f : α → β) : List (Formula α) → List (Formula β)
    | [] => []
    | part :: rest => map f part :: mapEach f rest

/-- All atoms, from left to right. -/
def atoms : Formula α → List α
  | atom a => [a]
  | not part => part.atoms
  | all parts => atomsOfEach parts
  | any parts => atomsOfEach parts
where
  /-- All atoms of all parts. -/
  atomsOfEach : List (Formula α) → List α
    | [] => []
    | part :: rest => part.atoms ++ atomsOfEach rest

end Formula

end N1qlConnector
