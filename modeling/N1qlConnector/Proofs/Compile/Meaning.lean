import N1qlConnector.Proofs.Compile.Filter
import N1qlConnector.Proofs.Compile.Scope

/-!
# What filters mean

A filter and the condition that is compiled from it hold for the same rows. Neither knows what is in
a row or how values are compared, so both are asked under any interpretation of values and operators,
in a logic with a third value for what cannot be said. The meaning of a filter is given by its own
tree and the two rows it can speak of. The meaning of a condition is given by its text: the text is
read by the reference reader, an alias stands for the row assigned to it, and a placeholder for the
value that the parameters hold under its name.

Two of the reader's forms are not found in filters. A connective with one part is read as that part,
and one without parts as a comparison of two numbers, which no interpretation can change.

## Main results

* `truth_asWritten` : writing a formula down keeps its meaning.
* `truth_readCondition` : the text of a compiled filter means what the filter means.
-/

namespace N1qlConnector

open Statement

/-! ## Three values -/

/-- What can be said of a row. -/
inductive Truth where
  | yes
  | no
  | unknown
  deriving DecidableEq, Repr

namespace Truth

def ofBool (b : Bool) : Truth := if b then yes else no

def not : Truth → Truth
  | yes => no
  | no => yes
  | unknown => unknown

def and : Truth → Truth → Truth
  | no, _ => no
  | _, no => no
  | yes, yes => yes
  | _, _ => unknown

def or : Truth → Truth → Truth
  | yes, _ => yes
  | _, yes => yes
  | no, no => no
  | _, _ => unknown

@[simp] theorem and_yes (truth : Truth) : truth.and yes = truth := by
  cases truth <;> rfl

@[simp] theorem or_no (truth : Truth) : truth.or no = truth := by
  cases truth <;> rfl

end Truth

/-- The truth of a formula, given that of its atoms. -/
def Formula.truth {α : Type} (atom : α → Truth) : Formula α → Truth
  | .atom a => atom a
  | .not part => (truth atom part).not
  | .all parts => (truths atom parts).foldr Truth.and .yes
  | .any parts => (truths atom parts).foldr Truth.or .no
where
  /-- The truths of all parts. -/
  truths (atom : α → Truth) : List (Formula α) → List Truth
    | [] => []
    | part :: rest => truth atom part :: truths atom rest

namespace Formula

variable {α β : Type}

theorem truths_eq_map (atom : α → Truth) (parts : List (Formula α)) :
    truth.truths atom parts = parts.map (truth atom) := by
  induction parts with
  | nil => rfl
  | cons part rest ih => rw [truth.truths, ih, List.map_cons]

@[simp] theorem truth_all (atom : α → Truth) (parts : List (Formula α)) :
    (all parts).truth atom = (parts.map (truth atom)).foldr Truth.and .yes := by
  rw [truth, truths_eq_map]

@[simp] theorem truth_any (atom : α → Truth) (parts : List (Formula α)) :
    (any parts).truth atom = (parts.map (truth atom)).foldr Truth.or .no := by
  rw [truth, truths_eq_map]

theorem truth_map (atom : β → Truth) (f : α → β) (formula : Formula α) :
    (formula.map f).truth atom = formula.truth (fun a => atom (f a)) := by
  induction formula using Formula.induct with
  | atom a => rfl
  | not part ih => rw [map, truth, truth, ih]
  | combination parts ih =>
      have hParts : parts.map (truth atom ∘ map f) = parts.map (truth fun a => atom (f a)) :=
        List.map_congr_left ih
      constructor
      · rw [map_all, truth_all, truth_all, List.map_map, hParts]
      · rw [map_any, truth_any, truth_any, List.map_map, hParts]

/-- Only the atoms that a formula has matter for it. -/
theorem truth_congr {first second : α → Truth} {formula : Formula α}
    (h : ∀ a ∈ formula.atoms, first a = second a) :
    formula.truth first = formula.truth second := by
  revert h
  induction formula using Formula.induct with
  | atom a => exact fun h => h a (by simp [atoms])
  | not part ih => exact fun h => by rw [truth, truth, ih h]
  | combination parts ih =>
      have hParts (h : ∀ a ∈ parts.flatMap atoms, first a = second a) :
          parts.map (truth first) = parts.map (truth second) :=
        List.map_congr_left fun part hPart =>
          ih part hPart fun a ha => h a (List.mem_flatMap.2 ⟨part, hPart, ha⟩)
      constructor
      · intro h
        rw [truth_all, truth_all, hParts (atoms_all parts ▸ h)]
      · intro h
        rw [truth_any, truth_any, hParts (atoms_any parts ▸ h)]

end Formula

/-! ## Rows and operators -/

/-- What can be read of a row. -/
structure RowValues (V : Type) where
  /-- The key of the document. -/
  key : V
  property : String → V

/-- What values and operators stand for. -/
structure Interpretation (V : Type) where
  value : Json → V
  unary : UnaryOperator → V → Truth
  binary : BinaryOperator → V → V → Truth
  array : ArrayOperator → V → V → Truth

variable {V : Type}

/-- The column of one of two rows. -/
def Column.read (current enclosing : RowValues V) (column : Column) : V :=
  let row := if column.path.getD [] = [] then current else enclosing
  if column.name = "id" then row.key else row.property column.name

/-- The truth of a comparison of columns of two rows. What is said of other tables is taken not to
hold. -/
def Comparison.truth (interpretation : Interpretation V) (current enclosing : RowValues V) :
    Comparison → Truth
  | .exists _ => .no
  | .unary operator column => interpretation.unary operator (column.read current enclosing)
  | .binary operator column (.column other) =>
    interpretation.binary operator (column.read current enclosing) (other.read current enclosing)
  | .binary operator column (.scalar value _) =>
    interpretation.binary operator (column.read current enclosing) (interpretation.value value)
  | .array operator column values _ =>
    interpretation.array operator (column.read current enclosing)
      (interpretation.value (.array values))

/-- The truth of a filter for two rows. -/
def Filter.truth (interpretation : Interpretation V) (current enclosing : RowValues V)
    (filter : Filter) : Truth :=
  Formula.truth (Comparison.truth interpretation current enclosing) filter

namespace Statement

/-- The value of a reference, with the rows that aliases stand for. -/
def Reference.read (rows : String → RowValues V) : Reference → V
  | documentKey rowAlias => (rows rowAlias).key
  | property rowAlias name => (rows rowAlias).property name

/-- The value of a side, if it has one. -/
def Side.read (interpretation : Interpretation V) (rows : String → RowValues V) :
    Side (Option Json) → Option V
  | reference found => some (found.read rows)
  | parameter found => found.map interpretation.value
  | text value => some (interpretation.value (.string value))
  | number value => some (interpretation.value (.nat value))

/-- How two numbers that stand in a statement compare. -/
def compareNumbers (m n : Nat) : BinaryOperator → Truth
  | .equal => .ofBool (m = n)
  | .lessThan => .ofBool (m < n)
  | .lessThanOrEqual => .ofBool (m ≤ n)
  | .greaterThan => .ofBool (n < m)
  | .greaterThanOrEqual => .ofBool (n ≤ m)
  | .custom _ => .unknown

/-- The truth of a comparison as it stands in a statement. Nothing can be said of a parameter that
has no value. -/
def Predicate.truth (interpretation : Interpretation V) (rows : String → RowValues V) :
    Predicate (Option Json) → Truth
  | isNull left =>
    ((left.read interpretation rows).map (interpretation.unary .isNull)).getD .unknown
  | compare (.number m) operator (.number n) => compareNumbers m n operator
  | compare left operator right =>
    (do
      let first ← left.read interpretation rows
      let second ← right.read interpretation rows
      return interpretation.binary operator first second : Option Truth).getD .unknown
  | isIn left right =>
    (do
      let first ← left.read interpretation rows
      let second ← right.read interpretation rows
      return interpretation.array .isIn first second : Option Truth).getD .unknown

/-- The truth of what was read of a condition, with the values of its parameters. -/
def truthOf (interpretation : Interpretation V) (rows : String → RowValues V) (parameters : Parameters)
    (condition : Formula (Predicate String)) : Truth :=
  condition.truth fun predicate =>
    (predicate.map (parameters.lookup ·)).truth interpretation rows

end Statement

/-! ## Filters and conditions -/

/-- A connective that is left out for a single part, and is a comparison of numbers without parts,
still combines the truths of its parts. -/
theorem truth_combined {π : Type} {atom : Predicate π → Truth}
    (connective : List (Formula (Predicate π)) → Formula (Predicate π)) {n : Nat}
    {combine : Truth → Truth → Truth} {unit : Truth}
    (hConnective : ∀ parts, (connective parts).truth atom =
      (parts.map (Formula.truth atom)).foldr combine unit)
    (hUnit : ∀ truth, combine truth unit = truth)
    (hNumbers : atom (.compare (.number 1) .equal (.number n)) = unit)
    (parts : List (Formula (Predicate π))) :
    (combined connective n parts).truth atom =
      (parts.map (Formula.truth atom)).foldr combine unit := by
  cases parts with
  | nil => exact hNumbers
  | cons first rest =>
      cases rest with
      | nil => exact (hUnit _).symm
      | cons second others => exact hConnective (first :: second :: others)

/-- Writing a formula down keeps its meaning, as long as numbers are compared as numbers. -/
theorem truth_asWritten {α π : Type} {atom : Predicate π → Truth} {predicate : α → Predicate π}
    (hYes : atom (.compare (.number 1) .equal (.number 1)) = .yes)
    (hNo : atom (.compare (.number 1) .equal (.number 0)) = .no) (formula : Formula α) :
    (asWritten predicate formula).truth atom = formula.truth fun a => atom (predicate a) := by
  induction formula using Formula.induct with
  | atom a => rfl
  | not part ih => rw [asWritten, Formula.truth, Formula.truth, ih]
  | combination parts ih =>
      have hParts : parts.map (Formula.truth atom ∘ asWritten predicate) =
          parts.map (Formula.truth fun a => atom (predicate a)) := List.map_congr_left ih
      constructor
      · rw [asWritten_all, truth_combined .all (Formula.truth_all atom) Truth.and_yes hYes,
          List.map_map, hParts, Formula.truth_all]
      · rw [asWritten_any, truth_combined .any (Formula.truth_any atom) Truth.or_no hNo,
          List.map_map, hParts, Formula.truth_any]

theorem Column.read_described (scope : Scope) (rows : String → RowValues V) (column : Column) :
    (column.described scope).read rows =
      column.read (rows scope.rowAlias) (rows scope.enclosing) := by
  unfold Column.described Reference.ofColumn Column.read Column.isCurrent keyColumn
  by_cases hPath : column.path.getD [] = []
  · by_cases hKey : column.name = "id"
    · simp [hPath, hKey, Reference.read]
    · simp [hPath, hKey, Reference.read]
  · by_cases hKey : column.name = "id"
    · simp [hPath, hKey, Reference.read]
    · simp [hPath, hKey, Reference.read]

/-- A comparison means the same with references in place of columns. -/
theorem Comparison.truth_described (interpretation : Interpretation V) (rows : String → RowValues V)
    (scope : Scope) {comparison : Comparison} (h : comparison.isBuiltIn) :
    ((comparison.described scope).map some).truth interpretation rows =
      comparison.truth interpretation (rows scope.rowAlias) (rows scope.enclosing) := by
  cases comparison with
  | «exists» table => rfl
  | unary operator column =>
      cases operator with
      | isNull => simp [described, truth, Predicate.map, Side.map, Predicate.truth, Side.read,
          Column.read_described]
      | custom word => cases h
  | binary operator column operand =>
      cases operand with
      | column other => simp [described, truth, Predicate.map, Side.map, Predicate.truth,
          Side.read, Column.read_described]
      | scalar value type => simp [described, truth, Predicate.map, Side.map, Predicate.truth,
          Side.read, Column.read_described]
  | array operator column values type =>
      cases operator with
      | isIn => simp [described, truth, Predicate.map, Side.map, Predicate.truth, Side.read,
          Column.read_described]
      | custom word => cases h

/-- Whatever rows its two aliases stand for and however values compare, the text of a compiled filter
is read as a condition that holds exactly if the filter does. -/
theorem Filter.truth_readCondition {scope : Scope} (hScope : scope.Reachable) {filter : Filter}
    (hBuiltIn : filter.isBuiltIn) {condition : Condition} {parameters : Parameters}
    (hCompile : filter.compile scope scope.stem [] = .ok (condition, parameters)) (tags : Tags) :
    ∃ found, readCondition (condition.text tags) = some found ∧
      ∀ {V : Type} (interpretation : Interpretation V) (rows : String → RowValues V),
        truthOf interpretation rows parameters found =
          filter.truth interpretation (rows scope.rowAlias) (rows scope.enclosing) := by
  have hCompiles := Filter.compile_ok hCompile
  have hPlain : condition.IsPlain :=
    hCompiles.isPlain hScope.stem_ne (by simpa using hBuiltIn) condition (by simp)
  refine ⟨condition.outline, readCondition_text tags hPlain, ?_⟩
  intro V interpretation rows
  have hNodup : parameters.keys.Nodup := hCompiles.binds.nodup_keys List.nodup_nil
  have hDescribed : Formula.map (fun test => test.predicate.map (parameters.lookup ·)) condition =
      Formula.map (fun comparison => (comparison.described scope).map some) filter := by
    simpa using hCompiles.described parameters (List.prefix_refl _) hNodup
  calc truthOf interpretation rows parameters condition.outline
      = Formula.truth (fun test : Test =>
          (test.predicate.map (parameters.lookup ·)).truth interpretation rows) condition :=
        truth_asWritten rfl rfl condition
    _ = Formula.truth (Predicate.truth interpretation rows)
          (Formula.map (fun test => test.predicate.map (parameters.lookup ·)) condition) :=
        (Formula.truth_map _ _ _).symm
    _ = Formula.truth (Predicate.truth interpretation rows)
          (Formula.map (fun comparison => (comparison.described scope).map some) filter) := by
        rw [hDescribed]
    _ = Formula.truth (fun comparison : Comparison =>
          ((comparison.described scope).map some).truth interpretation rows) filter :=
        Formula.truth_map _ _ _
    _ = filter.truth interpretation (rows scope.rowAlias) (rows scope.enclosing) := by
        refine Formula.truth_congr fun comparison hMem => ?_
        have hComparison : comparison.isBuiltIn = true := List.all_eq_true.1 hBuiltIn _ hMem
        exact comparison.truth_described interpretation rows scope hComparison

/-- A scope whose table has the name of the table around. -/
def twinScope : Scope := (Scope.root ⟨["t"]⟩).nested ⟨["t"]⟩ "`f"

/-- Two values whose parameters would have the same name, one of them compared with a column of the
enclosing row, in a filter with an empty conjunction. -/
def twinFilter : Filter :=
  .not (.any [.atom (.binary .equal (.ofCurrent "a b") (.scalar (.nat 1) none)),
    .atom (.array .isIn (.ofEnclosing "a_b") [.nat 2, .null] none), .all []])

theorem truth_readCondition_twin :
    ∃ condition parameters,
      twinFilter.compile twinScope twinScope.stem [] = .ok (condition, parameters) ∧
      Entries.keys parameters = ["p__f_not_or_a_b", "p__f_not_or_a_b_1"] ∧
      ∃ found, readCondition (condition.text ⟨true⟩) = some found ∧
        ∀ {V : Type} (interpretation : Interpretation V) (rows : String → RowValues V),
          truthOf interpretation rows parameters found =
            twinFilter.truth interpretation (rows twinScope.rowAlias) (rows twinScope.enclosing) := by
  have hScope : twinScope.Reachable := .nested (.root ⟨["t"]⟩) ⟨["t"]⟩ "`f"
  obtain ⟨condition, parameters, hCompile, hKeys⟩ : ∃ condition parameters,
      twinFilter.compile twinScope twinScope.stem [] = .ok (condition, parameters) ∧
        Entries.keys parameters = ["p__f_not_or_a_b", "p__f_not_or_a_b_1"] := ⟨_, _, rfl, rfl⟩
  exact ⟨condition, parameters, hCompile, hKeys,
    Filter.truth_readCondition hScope (by decide) hCompile ⟨true⟩⟩

end N1qlConnector
