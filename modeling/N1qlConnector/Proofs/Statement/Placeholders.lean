import N1qlConnector.Proofs.Statement.ReadBack
import N1qlConnector.Proofs.Statement.Trees

/-!
# Placeholders in statements

The placeholders among the lexemes of a statement are the parameters of its tree, each as often as
it stands there. They come in another order, since the statements that a statement reads from are
written before its own condition.

## Main results

* `Condition.placeholders_lexemes` : the placeholders of a condition, in order.
* `Select.placeholders_lexemes` : the placeholders of a statement, up to their order.
-/

namespace N1qlConnector.Statement

def Lexeme.placeholder? : Lexeme → Option String
  | parameter found => some found
  | _ => none

/-- The names of all placeholders, in the order in which they stand. -/
def placeholders (found : List Lexeme) : List String := found.filterMap Lexeme.placeholder?

@[simp] theorem placeholders_nil : placeholders [] = [] := rfl

@[simp] theorem placeholders_append (first second : List Lexeme) :
    placeholders (first ++ second) = placeholders first ++ placeholders second :=
  List.filterMap_append

/-- Separators have no placeholders. -/
theorem placeholders_intercalate {separator : List Lexeme} (h : placeholders separator = [])
    (parts : List (List Lexeme)) :
    placeholders (separator.intercalate parts) = parts.flatMap placeholders := by
  induction parts with
  | nil => rfl
  | cons part rest ih =>
      cases rest with
      | nil => simp
      | cons next others =>
          rw [List.intercalate_cons_cons, placeholders_append, placeholders_append, h, ih]
          simp

theorem placeholders_clauseLexemes {opening mark : List Lexeme} (hOpening : placeholders opening = [])
    (hMark : placeholders mark = []) (parts : List (List Lexeme)) :
    placeholders (clauseLexemes opening mark parts) = parts.flatMap placeholders := by
  cases parts with
  | nil => rfl
  | cons part rest =>
      rw [clauseLexemes, placeholders_append, hOpening, placeholders_intercalate hMark]
      · rfl
      · simp

/-! ## Conditions -/

@[simp] theorem Reference.placeholders_lexemes (reference : Reference) :
    placeholders reference.lexemes = [] := by
  cases reference <;> rfl

theorem Test.placeholders_lexemes (test : Test) :
    placeholders test.lexemes = test.predicate.parameters := by
  cases test with
  | unary left operator =>
      simp only [Test.lexemes, placeholders_append, Reference.placeholders_lexemes]
      rfl
  | binary left operator right =>
      cases right with
      | reference found =>
          simp only [Test.lexemes, Term.lexemes, placeholders_append,
            Reference.placeholders_lexemes]
          rfl
      | placeholder name =>
          simp only [Test.lexemes, Term.lexemes, placeholders_append,
            Reference.placeholders_lexemes]
          rfl
  | array left operator right =>
      simp only [Test.lexemes, placeholders_append, Reference.placeholders_lexemes]
      rfl

theorem placeholders_combinationLexemes (word truth : String) (parts : List (List Lexeme)) :
    placeholders (combinationLexemes word truth parts) = parts.flatMap placeholders := by
  cases parts with
  | nil => rfl
  | cons part rest =>
      rw [combinationLexemes, placeholders_append, placeholders_append,
        placeholders_intercalate rfl]
      · exact List.append_nil _
      · simp

theorem Condition.placeholders_lexemes (condition : Condition) :
    placeholders condition.lexemes =
      condition.atoms.flatMap fun test => test.predicate.parameters := by
  induction condition using Formula.induct with
  | atom test =>
      rw [Condition.lexemes, Test.placeholders_lexemes]
      simp [Formula.atoms]
  | not part ih =>
      rw [Condition.lexemes, placeholders_append, placeholders_append, ih]
      exact List.append_nil _
  | combination parts ih =>
      have hParts : parts.flatMap (fun part => placeholders (Condition.lexemes part)) =
          parts.flatMap fun part => part.atoms.flatMap fun test => test.predicate.parameters :=
        List.flatMap_congr ih
      constructor
      · rw [Condition.lexemes, each_eq_map, placeholders_combinationLexemes, List.flatMap_map,
          hParts, Formula.atoms_all, List.flatMap_assoc]
      · rw [Condition.lexemes, each_eq_map, placeholders_combinationLexemes, List.flatMap_map,
          hParts, Formula.atoms_any, List.flatMap_assoc]

/-- Writing a condition down adds no parameters. -/
theorem Condition.parameters_outline (condition : Condition) :
    condition.outline.atoms.flatMap Predicate.parameters =
      condition.atoms.flatMap fun test => test.predicate.parameters := by
  have hBound : bound condition.outline.atoms =
      bound (Formula.atoms condition |>.map Test.predicate) := bound_atoms_asWritten _ _
  rw [← flatMap_parameters_bound, hBound, flatMap_parameters_bound, List.flatMap_map]

/-! ## Statements -/

theorem RowSet.placeholders_whereLexemes (rows : RowSet) :
    placeholders rows.whereLexemes = rows.outline.atoms.flatMap Predicate.parameters := by
  rw [RowSet.whereLexemes, placeholders_clauseLexemes rfl rfl, RowSet.outline,
    atoms_gather Formula.atoms_all]
  cases rows.condition with
  | none => rfl
  | some condition =>
      have hCondition := Condition.placeholders_lexemes condition
      rw [← Condition.parameters_outline] at hCondition
      simp only [Option.map_some, Option.toList_some, List.flatMap_cons, List.flatMap_nil,
        List.append_nil, List.flatMap_append, hCondition]
      rfl

theorem RowSet.placeholders_orderLexemes (rows : RowSet) : placeholders rows.orderLexemes = [] := by
  rw [RowSet.orderLexemes, placeholders_clauseLexemes rfl rfl, List.flatMap_map,
    List.flatMap_eq_nil_iff]
  intro element _
  rw [RowSet.orderElementLexemes, placeholders_append, Reference.placeholders_lexemes]
  rfl

theorem RowSet.placeholders_countLexemes (word : String) (count : Option UInt64) :
    placeholders (RowSet.countLexemes word count) = [] := by
  cases count <;> rfl

theorem placeholders_namedItemLexemes (item : String × Item) :
    placeholders (namedItemLexemes item) = [] := by
  obtain ⟨name, item⟩ := item
  cases item with
  | column reference =>
      rw [namedItemLexemes, Item.lexemes, placeholders_append, Reference.placeholders_lexemes]
      rfl
  | columnOrNull reference =>
      rw [namedItemLexemes, Item.lexemes, placeholders_append, placeholders_append,
        placeholders_append, Reference.placeholders_lexemes]
      rfl
  | rows binding => rfl

/-- The placeholders of a statement are its parameters. -/
theorem Select.placeholders_lexemes (select : Select) :
    (placeholders select.lexemes).Perm
      (select.outline.predicates.flatMap Predicate.parameters) := by
  induction select using Select.induct with
  | mk items bindings rows ih =>
      have hItems : placeholders ([.word "SELECT"] ++
          [.mark ","].intercalate (items.map namedItemLexemes)) = [] := by
        rw [placeholders_append, placeholders_intercalate rfl, List.flatMap_map]
        exact List.flatMap_eq_nil_iff.2 fun item _ => placeholders_namedItemLexemes item
      have hBindings : ((Select.lexemes.bindingLexemes bindings).flatMap placeholders).Perm
          ((Outline.predicates.ofBindings (Select.outline.bindingOutlines bindings)).flatMap
            Predicate.parameters) := by
        clear hItems
        induction bindings with
        | nil => exact .nil
        | cons first rest ihRest =>
            have hRest := ihRest fun name select hMem =>
              ih name select (List.mem_cons_of_mem _ hMem)
            obtain ⟨name, found⟩ := first
            cases found with
            | none => exact hRest
            | some select =>
                have hFirst := ih name select List.mem_cons_self
                have hLexemes : placeholders ([.name name, .mark "=", .mark "("] ++ select.lexemes
                    ++ [.mark ")"]) = placeholders select.lexemes := by
                  rw [placeholders_append, placeholders_append]
                  exact List.append_nil _
                rw [Select.lexemes.bindingLexemes, List.flatMap_cons, hLexemes,
                  Select.outline.bindingOutlines, Outline.predicates.ofBindings,
                  List.flatMap_append]
                exact hFirst.append hRest
      have hWhole : placeholders (Select.lexemes ⟨items, bindings, rows⟩) =
          (Select.lexemes.bindingLexemes bindings).flatMap placeholders ++
            rows.outline.atoms.flatMap Predicate.parameters := by
        have hLet : placeholders (clauseLexemes [.word "LET"] [.mark ","]
            (Select.lexemes.bindingLexemes bindings)) =
              (Select.lexemes.bindingLexemes bindings).flatMap placeholders :=
          placeholders_clauseLexemes rfl rfl _
        rw [← RowSet.placeholders_whereLexemes, ← hLet]
        simp only [Select.lexemes, List.flatten_cons, List.flatten_nil, List.append_nil,
          placeholders_append, RowSet.placeholders_orderLexemes,
          RowSet.placeholders_countLexemes]
        rw [placeholders_append] at hItems
        rw [hItems]
        rfl
      rw [hWhole, Select.outline, Outline.predicates, List.flatMap_append]
      exact (hBindings.append_right _).trans List.perm_append_comm

end N1qlConnector.Statement
