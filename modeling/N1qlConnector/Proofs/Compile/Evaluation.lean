import Mathlib.Data.List.Sort
import Mathlib.Data.Multiset.Dedup
import Mathlib.Data.Multiset.Fold
import Mathlib.Data.String.Basic
import Mathlib.Data.Sum.Order
import N1qlConnector.Proofs.Compile.Meaning
import N1qlConnector.Proofs.Statement.Totals

/-!
# What aggregate statements compute

A reference semantics for the statements that compute values from all rows. A store holds documents
with their keys. The clauses of a statement filter them, order them and cut a page out of them, and
the values of a statement in parentheses are rows again, now without keys: what `META` says of a
document is not part of it, and a value that was selected is no document of the store.

An engine decides how values compare, in which order rows come and what the functions compute.
Nothing is asked of it but that ordering rows neither loses nor repeats one, and that functions look
at values and how often each is there, but not at their order. A value that is missing is `none`.
`Engine.ofScalars` is an engine of this kind, with which statements can be run.

Trees are evaluated whatever their conditions are made of. A reader finds comparisons, of which
`Statement.truthOf` knows the truth; the tests of a statement that was not written down have theirs
by `Test.truth`, for every operator that a caller made up.

## Main results

* `RowSet.truthOf_outline` : both agree on a condition that can be read back.
-/

namespace N1qlConnector

open Statement

/-! ## Rows and engines -/

/-- What an alias stands for: a document of the store with its key, or a value without one. -/
structure SourceRow where
  key : Option String
  document : Entries Json

/-- What can be read of a row. -/
def SourceRow.values (row : SourceRow) : RowValues (Option Json) where
  key := row.key.map Json.string
  property := fun name => row.document.lookup name

/-- The rows of all names, where only one of them is an alias. -/
def SourceRow.under (row : SourceRow) (rowAlias : String) : String → SourceRow := fun name =>
  if name = rowAlias then row else ⟨none, []⟩

/-- What can be read under all names. -/
def SourceRow.valuesUnder (row : SourceRow) (rowAlias : String) :
    String → RowValues (Option Json) := fun name => (row.under rowAlias name).values

/-- The documents of each keyspace, with the keys that they are stored under. -/
abbrev Contents := Keyspace → List (String × Entries Json)

/-- All documents of a keyspace as rows. -/
def Contents.rows (contents : Contents) (keyspace : Keyspace) : List SourceRow :=
  (contents keyspace).map fun stored => ⟨some stored.1, stored.2⟩

/-- What is left to whoever runs statements. -/
structure Engine where
  unary : UnaryOperator → Option Json → Truth
  binary : BinaryOperator → Option Json → Option Json → Truth
  array : ArrayOperator → Option Json → Option Json → Truth
  /-- Puts rows into the order of the values that they come with. Rows without such values come in
  an order of the engine's own. -/
  sort : List (List (Option Json × Direction) × SourceRow) → List SourceRow
  sort_perm : ∀ rows, (sort rows).Perm (rows.map Prod.snd)
  count : Multiset (Option Json) → Option Json
  countDistinct : Multiset (Option Json) → Option Json
  avg : Multiset (Option Json) → Option Json
  max : Multiset (Option Json) → Option Json
  min : Multiset (Option Json) → Option Json
  sum : Multiset (Option Json) → Option Json

namespace Engine

variable (engine : Engine)

/-- What values and operators stand for. -/
def interpretation : Interpretation (Option Json) :=
  ⟨some, engine.unary, engine.binary, engine.array⟩

/-- A value, or zero in place of `null` and of none. -/
def orZero : Option Json → Option Json
  | none => some (.nat 0)
  | some .null => some (.nat 0)
  | some value => some value

/-- What a function computes from the values of a column. -/
def compute (values : Multiset (Option Json)) : TotalFunction → Option Json
  | .count => engine.count values
  | .countDistinct => engine.countDistinct values
  | .avg => engine.avg values
  | .max => engine.max values
  | .min => engine.min values
  | .sum => engine.sum values
  | .sumOrZero => orZero (engine.sum values)

end Engine

/-! ## An engine -/

/-- What values can be compared and added up. -/
inductive Scalar where
  | number (n : Int)
  | text (word : String)

namespace Scalar

/-- All numbers come before all texts. -/
def rank : Scalar → Lex (Int ⊕ String)
  | number n => toLex (.inl n)
  | text word => toLex (.inr word)

theorem rank_injective : Function.Injective rank := by
  intro left right h
  cases left with
  | number m =>
      cases right with
      | number n => exact congrArg number (Sum.inl_injective (toLex_inj.1 h))
      | text word => exact absurd (toLex_inj.1 h) nofun
  | text word =>
      cases right with
      | number n => exact absurd (toLex_inj.1 h) nofun
      | text other => exact congrArg text (Sum.inr_injective (toLex_inj.1 h))

instance : LinearOrder Scalar := LinearOrder.lift' rank rank_injective

def ofValue? : Option Json → Option Scalar
  | some (.number (.integer n)) => some (number n)
  | some (.string word) => some (text word)
  | _ => none

def value : Scalar → Json
  | number n => .number (.integer n)
  | text word => .string word

def number? : Scalar → Option Int
  | number n => some n
  | text _ => none

/-- The scalars among some values. -/
def among (values : Multiset (Option Json)) : Multiset Scalar := values.filterMap ofValue?

/-- The numbers among some values. -/
def numbersAmong (values : Multiset (Option Json)) : Multiset Int := (among values).filterMap number?

/-- All members put together, two at a time. Nothing comes of no members. -/
def gather {α : Type} (op : α → α → α) [Std.Commutative op] [Std.Associative op]
    (members : Multiset α) : Option α := (members.map some).fold (Option.merge op) none

def compares (left right : Scalar) : BinaryOperator → Bool
  | .equal => left = right
  | .lessThan => left < right
  | .lessThanOrEqual => left ≤ right
  | .greaterThan => right < left
  | .greaterThanOrEqual => right ≤ left
  | .custom _ => false

/-- Whether a row with the first values comes before one with the second, or no later. A value that
is no scalar is below all that are. -/
def precedes : List (Option Json × Direction) → List (Option Json × Direction) → Bool
  | (left, direction) :: more, (right, _) :: others =>
    match ofValue? left, ofValue? right, direction with
    | none, none, _ => precedes more others
    | none, some _, direction => direction = .ascending
    | some _, none, direction => direction = .descending
    | some first, some second, direction =>
      if first = second then precedes more others
      else
        match direction with
        | .ascending => first < second
        | .descending => second < first
  | _, _ => true

end Scalar

/-- An engine that knows whole numbers and texts, and passes over all other values. -/
def Engine.ofScalars : Engine where
  unary operator value :=
    match operator, value with
    | .isNull, some found => .ofBool (found matches .null)
    | _, _ => .unknown
  binary operator left right :=
    match Scalar.ofValue? left, Scalar.ofValue? right with
    | some left, some right => .ofBool (left.compares right operator)
    | _, _ => .unknown
  array operator left right :=
    match operator, Scalar.ofValue? left, right with
    | .isIn, some left, some (.array items) =>
      .ofBool (items.any fun item => Scalar.ofValue? (some item) = some left)
    | _, _, _ => .unknown
  sort rows := (rows.insertionSort fun first second => Scalar.precedes first.1 second.1).map Prod.snd
  sort_perm rows := (List.perm_insertionSort _ rows).map Prod.snd
  count values := some (.nat (Scalar.among values).card)
  countDistinct values := some (.nat (Scalar.among values).dedup.card)
  avg values :=
    let numbers := Scalar.numbersAmong values
    (Scalar.gather (fun m n : Int => m + n) numbers).map fun total =>
      .number (.integer (total / numbers.card))
  max values := (Scalar.gather Max.max (Scalar.among values)).map Scalar.value
  min values := (Scalar.gather Min.min (Scalar.among values)).map Scalar.value
  sum values :=
    (Scalar.gather (fun m n : Int => m + n) (Scalar.numbersAmong values)).map fun total =>
      .number (.integer total)

/-- A part of a list: so many members after so many that are left out. -/
def cut {α : Type} (offset limit : Option Nat) (members : List α) : List α :=
  match limit with
  | some limit => (members.drop (offset.getD 0)).take limit
  | none => members.drop (offset.getD 0)

theorem cut_subset {α : Type} (offset limit : Option Nat) (members : List α) :
    cut offset limit members ⊆ members := by
  cases limit with
  | none => exact List.drop_subset _ _
  | some limit => exact List.Subset.trans (List.take_subset _ _) (List.drop_subset _ _)

/-- Nothing is left out where there are no more members than asked for. -/
theorem cut_eq_self {α : Type} {offset limit : Option Nat} {members : List α}
    (hOffset : offset.getD 0 = 0) (hLimit : ∀ n ∈ limit, members.length ≤ n) :
    cut offset limit members = members := by
  cases limit with
  | none => rw [cut, hOffset, List.drop_zero]
  | some limit => rw [cut, hOffset, List.drop_zero, List.take_of_length_le (hLimit limit rfl)]

/-! ## Evaluation -/

namespace Statement

section Evaluation

variable {γ : Type} (engine : Engine)
  (holds : γ → (String → RowValues (Option Json)) → Truth) (contents : Contents)

/-- The rows that meet the condition. -/
def RowsOutline.matching {σ : Type} (rows : RowsOutline σ γ) (given : List SourceRow) :
    List SourceRow :=
  given.filter fun row => rows.condition.all fun condition =>
    holds condition (row.valuesUnder rows.rowAlias) = .yes

/-- The values that a row is ordered by. -/
def RowsOutline.keys {σ : Type} (rows : RowsOutline σ γ) (row : SourceRow) :
    List (Option Json × Direction) :=
  rows.order.map fun element => (element.1.read (row.valuesUnder rows.rowAlias), element.2)

/-- The rows that all clauses select. -/
def RowsOutline.select {σ : Type} (rows : RowsOutline σ γ) (given : List SourceRow) :
    List SourceRow :=
  let matching := rows.matching holds given
  cut rows.offset rows.limit (engine.sort (matching.map fun row => (rows.keys row, row)))

/-- The object with the member in it, for a row. A missing value takes the member away. -/
def Put.eval (put : Put) (rowAlias : String) (row : SourceRow) : SourceRow where
  key := none
  document :=
    let object := (row.under rowAlias put.object).document
    match put.value.read (row.valuesUnder rowAlias) with
    | some value => object.insert put.member value
    | none => object.filter fun entry => entry.1 ≠ put.member

/-- The rows of a source. -/
def TotalsSource.rows : TotalsSource γ → List SourceRow
  | stored keyspace => contents.rows keyspace
  | values put rows =>
    (rows.select engine holds (contents.rows rows.source)).map (put.eval rows.rowAlias)

/-- The values of a column. -/
def columnValues (rowAlias : String) (rows : List SourceRow) (column : Reference) :
    Multiset (Option Json) :=
  Multiset.ofList (rows.map fun row => column.read (row.valuesUnder rowAlias))

def Total.eval (rowAlias : String) (rows : List SourceRow) : Total → Option Json
  | countRows => some (.nat rows.length)
  | ofColumn function column => engine.compute (columnValues rowAlias rows column) function

/-- The results of a statement. All rows together give one, and clauses for a page apply to that. -/
def TotalsOutline.eval (outline : TotalsOutline γ) : List (List (String × Option Json)) :=
  let rows := outline.rows.matching holds (outline.rows.source.rows engine holds contents)
  cut outline.rows.offset outline.rows.limit
    [outline.items.map fun item => (item.1, item.2.eval engine outline.rows.rowAlias rows)]

end Evaluation

/-! ## Tests -/

section Tests

variable {V : Type} (interpretation : Interpretation V) (parameters : Parameters)
  (rows : String → RowValues V)

def Term.eval : Term → Option V
  | reference found => some (found.read rows)
  | placeholder name => (parameters.lookup name).map interpretation.value

/-- The truth of a test, whatever its operator is. Nothing can be said of a placeholder that has no
value. -/
def Test.truth : Test → Truth
  | unary left operator => interpretation.unary operator (left.read rows)
  | binary left operator right =>
    ((right.eval interpretation parameters rows).map
      (interpretation.binary operator (left.read rows))).getD .unknown
  | array left operator right =>
    ((parameters.lookup right).map fun value =>
      interpretation.array operator (left.read rows) (interpretation.value value)).getD .unknown

/-- The truth of the whole condition of rows. -/
def RowSet.truth (found : RowSet) : Truth :=
  (interpretation.binary .equal ((rows found.rowAlias).property "type")
    (interpretation.value (.string found.kind))).and
      ((found.condition.map (Formula.truth (Test.truth interpretation parameters rows))).getD .yes)

/-- The operators that a reader knows mean the same to it. -/
theorem Test.truth_predicate {test : Test} (h : test.IsPlain) :
    (test.predicate.map (parameters.lookup ·)).truth interpretation rows =
      test.truth interpretation parameters rows := by
  cases test with
  | unary left operator =>
      cases operator with
      | isNull => rfl
      | custom word => cases h
  | binary left operator right =>
      cases right with
      | reference found => rfl
      | placeholder name =>
          simp only [predicate, Term.side, Predicate.map, Side.map, Predicate.truth, Side.read,
            Test.truth, Term.eval]
          cases parameters.lookup name <;> rfl
  | array left operator right =>
      cases operator with
      | isIn =>
          simp only [predicate, Predicate.map, Side.map, Predicate.truth, Side.read, Test.truth]
          cases parameters.lookup right <;> rfl
      | custom word => cases h.1

/-- What a reader finds of the condition of rows means what its tests mean. -/
theorem RowSet.truthOf_outline {found : RowSet}
    (h : ∀ condition ∈ found.condition, condition.IsPlain) :
    truthOf interpretation rows parameters found.outline =
      found.truth interpretation parameters rows := by
  unfold truthOf RowSet.outline RowSet.truth
  cases hCondition : found.condition with
  | none => exact (Truth.and_yes _).symm
  | some condition =>
      have hAtoms : (Condition.outline condition).truth (fun predicate =>
          (predicate.map (parameters.lookup ·)).truth interpretation rows) =
            Formula.truth (Test.truth interpretation parameters rows) condition := by
        rw [Condition.outline, truth_asWritten rfl rfl]
        refine Formula.truth_congr fun test hTest => ?_
        have hTestPlain : test.IsPlain := h condition hCondition test hTest
        exact Test.truth_predicate interpretation parameters rows hTestPlain
      simp only [Option.map_some, Option.toList_some, gather, Formula.truth_all, List.map_cons,
        List.map_nil, List.foldr_cons, List.foldr_nil, Truth.and_yes, hAtoms, Option.getD_some]
      rfl

end Tests

end Statement

/-! ## Running statements -/

namespace Engine

variable (engine : Engine)

/-- The results of a statement, whatever its operators are. -/
def run (contents : Contents) (parameters : Parameters) (select : TotalsSelect) :
    List (List (String × Option Json)) :=
  let holds (rows : RowSet) (values : String → RowValues (Option Json)) :=
    rows.truth engine.interpretation parameters values
  (select.outlineWith select.rows).eval engine holds contents

/-- The results of a text, if it is that of an aggregate statement. -/
def answer (contents : Contents) (statement : Prepared) :
    Option (List (List (String × Option Json))) :=
  let holds (condition : Formula (Predicate String)) (values : String → RowValues (Option Json)) :=
    truthOf engine.interpretation values statement.parameters condition
  (TotalsOutline.read statement.text).map fun found => found.eval engine holds contents

end Engine

end N1qlConnector
