import Mathlib.Data.List.Count
import Mathlib.Data.List.Forall2
import N1qlConnector.Proofs.Nesting
import N1qlConnector.Proofs.Statement.ReadBack

/-!
# Scoping of names in statements

A statement introduces the alias of its rows and the names that it binds further statements to. Both
are seen in all of its clauses and in the statements that it reads from, where the same name may be
introduced again and then hides the outer one. A statement must not introduce a name twice: such a
name stands for nothing.

`resolve` finds what a name stands for among the frames around it, and `Select.occurrences` lists all
names of a statement with the frames around them. The store does both without telling, so a name that
is taken for another one is no error, it just brings in the wrong row.

## Main results

* `resolve_rowAlias`, `resolve_binding`, `resolve_enclosing` : when the names that statements use
  stand for what they should.
-/

namespace N1qlConnector.Statement

/-- The names that a statement introduces. -/
structure Frame where
  rowAlias : String
  /-- The names that are bound to further statements. -/
  bindings : List String
  deriving DecidableEq, Repr

/-- What a name can stand for, in a statement so many levels further out. -/
inductive Binder where
  | row (level : Nat)
  | binding (level : Nat) (name : String)
  deriving DecidableEq, Repr

/-- The same, seen from one level further in. -/
def Binder.inward : Binder → Binder
  | row level => row (level + 1)
  | binding level name => binding (level + 1) name

/-- What a name stands for, the innermost frame first. -/
def resolve : List Frame → String → Option Binder
  | [], _ => none
  | frame :: outer, name =>
    if name = frame.rowAlias then if name ∈ frame.bindings then none else some (.row 0)
    else if name ∈ frame.bindings then
      if frame.bindings.count name = 1 then some (.binding 0 name) else none
    else (resolve outer name).map Binder.inward

/-! ## What the names of a statement stand for -/

section Resolve

variable (frame : Frame) {parent : Frame} (outer : List Frame) {name : String}

theorem resolve_rowAlias :
    resolve (frame :: outer) frame.rowAlias = some (.row 0) ↔
      frame.rowAlias ∉ frame.bindings := by
  rw [resolve, if_pos rfl]
  by_cases hBound : frame.rowAlias ∈ frame.bindings
  · simp [hBound]
  · simp [hBound]

theorem resolve_binding (h : name ∈ frame.bindings) :
    resolve (frame :: outer) name = some (.binding 0 name) ↔
      name ≠ frame.rowAlias ∧ frame.bindings.count name = 1 := by
  rw [resolve]
  by_cases hAlias : name = frame.rowAlias
  · rw [if_pos hAlias, if_pos h]
    simp [hAlias]
  · rw [if_neg hAlias, if_pos h]
    by_cases hCount : frame.bindings.count name = 1
    · simp [hAlias, hCount]
    · simp [hCount]

/-- The rows of the statement around are seen unless a binding hides them. -/
theorem resolve_enclosing (hAlias : parent.rowAlias ≠ frame.rowAlias)
    (hParent : parent.rowAlias ∉ parent.bindings) :
    resolve (frame :: parent :: outer) parent.rowAlias = some (.row 1) ↔
      parent.rowAlias ∉ frame.bindings := by
  rw [resolve, if_neg hAlias]
  by_cases hBound : parent.rowAlias ∈ frame.bindings
  · rw [if_pos hBound]
    by_cases hCount : frame.bindings.count parent.rowAlias = 1
    · simp [hCount, hBound]
    · simp [hCount, hBound]
  · rw [if_neg hBound, (resolve_rowAlias parent outer).2 hParent]
    simp [hBound, Binder.inward]

end Resolve

/-! ## The names in a statement -/

def Reference.rowAlias : Reference → String
  | documentKey rowAlias => rowAlias
  | property rowAlias _ => rowAlias

/-- The name that an item reads from: an alias or a binding. -/
def Item.name : Item → String
  | column reference => reference.rowAlias
  | columnOrNull reference => reference.rowAlias
  | rows binding => binding

def Test.references : Test → List Reference
  | unary left _ => [left]
  | binary left _ (.reference right) => [left, right]
  | binary left _ (.placeholder _) => [left]
  | array left _ _ => [left]

/-- The names in the clauses of rows: the alias in the comparison with the kind, and those in the
condition and the order. -/
def RowSet.names (rows : RowSet) : List String :=
  rows.rowAlias ::
    ((rows.condition.toList.flatMap Formula.atoms).flatMap Test.references).map Reference.rowAlias ++
    (rows.order.getD []).map fun element => element.1.rowAlias

/-- All names in a statement and in the statements that it reads from, with the frames around. -/
def Select.occurrences (outer : List Frame) : Select → List (List Frame × String)
  | ⟨items, bindings, rows⟩ =>
    let frames := ⟨rows.rowAlias, bindings.map Prod.fst⟩ :: outer
    (items.map (fun item => item.2.name) ++ rows.names).map (fun name => (frames, name))
      ++ ofBindings frames bindings
where
  /-- The names in all bound statements. -/
  ofBindings (frames : List Frame) :
      List (String × Option Select) → List (List Frame × String)
    | [] => []
    | (_, none) :: rest => ofBindings frames rest
    | (_, some select) :: rest => select.occurrences frames ++ ofBindings frames rest

/-- A name stands for what it is meant for. -/
def Means (found : List Frame × String) (binder : Binder) : Prop :=
  resolve found.1 found.2 = some binder

instance (found : List Frame × String) (binder : Binder) : Decidable (Means found binder) :=
  inferInstanceAs (Decidable (_ = _))

/-- The names of one statement, given as pairs with what they are meant for. -/
theorem forall₂_means {frames : List Frame} {pairs : List (String × Binder)} :
    List.Forall₂ Means ((pairs.map Prod.fst).map fun name => (frames, name))
        (pairs.map Prod.snd) ↔
      ∀ pair ∈ pairs, resolve frames pair.1 = some pair.2 := by
  rw [List.map_map, List.forall₂_map_left_iff, List.forall₂_map_right_iff, List.forall₂_same]
  rfl

/-- Lists that are put together from parts of the same lengths. -/
theorem forall₂_append_iff {α β : Type} {related : α → β → Prop} {as others : List α}
    {bs rest : List β} (hLength : as.length = bs.length) :
    List.Forall₂ related (as ++ others) (bs ++ rest) ↔
      List.Forall₂ related as bs ∧ List.Forall₂ related others rest := by
  induction as generalizing bs with
  | nil =>
      cases bs with
      | nil => simp
      | cons b bs => cases hLength
  | cons a as ih =>
      cases bs with
      | nil => cases hLength
      | cons b bs =>
          simp only [List.cons_append, List.forall₂_cons]
          rw [ih (by simpa using hLength), and_assoc]

/-! ## Comparisons -/

def Side.references {π : Type} : Side π → List Reference
  | reference found => [found]
  | _ => []

def Predicate.references {π : Type} : Predicate π → List Reference
  | isNull left => left.references
  | compare left _ right => left.references ++ right.references
  | isIn left right => left.references ++ right.references

theorem Side.references_map {π ρ : Type} (f : π → ρ) (side : Side π) :
    (side.map f).references = side.references := by
  cases side <;> rfl

theorem Predicate.references_map {π ρ : Type} (f : π → ρ) (predicate : Predicate π) :
    (predicate.map f).references = predicate.references := by
  cases predicate <;> simp [map, references, Side.references_map]

theorem Test.references_predicate (test : Test) : test.predicate.references = test.references := by
  cases test with
  | unary left operator => rfl
  | binary left operator right => cases right <;> rfl
  | array left operator right => rfl

end N1qlConnector.Statement
