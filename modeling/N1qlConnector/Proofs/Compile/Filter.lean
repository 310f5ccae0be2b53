import N1qlConnector.Proofs.Compile.Described
import N1qlConnector.Proofs.Statement.FreshName
import N1qlConnector.Proofs.Statement.ReadBack
import N1qlConnector.Proofs.Statement.Trees

/-!
# What compiling a filter does

Compiling a filter does two things at once: it makes a condition, and it binds values. `Binds` says
what is bound, and for which comparison of the condition: the listed values in their order, each
under a name that was free, and nothing else. Whatever is compiled after something else starts with
the parameters that the other one left, so what both bind together is what the first one binds
followed by what the second one binds (`Binds.append`). That is what all accounts of parameters rest
on, for filters here and for queries later.

The condition has the parameters of the moment in it, and more are bound afterwards. As no entry is
ever changed, its comparisons are those of the filter under every later map (`Compiles.described`).

## Main results

* `Filter.compile_ok` : what a compiled filter is made of.
-/

namespace N1qlConnector

open Statement

theorem Compiled.bind_eq_ok {α β : Type} {found : Compiled α} {next : α → Compiled β} {b : β} :
    (found >>= next) = .ok b ↔ ∃ a, found = .ok a ∧ next a = .ok b := by
  cases found with
  | error fault => simp [Bind.bind, Except.bind]
  | ok a => simp [Bind.bind, Except.bind]

namespace Statement

/-! ## What is bound -/

/-- From one map of parameters to another exactly the listed values are bound, in their order, and
these are the comparisons with the names that they got. -/
inductive Binds : Parameters → List Listed → Parameters → List (Predicate String) → Prop
  | nil (parameters : Parameters) : Binds parameters [] parameters []
  | cons {parameters later : Parameters} {listed : Listed} {rest : List Listed}
      {found : List (Predicate String)} (hValue : listed.predicate.parameters = [listed.value]) :
      Binds (bind parameters listed.proposal listed.value).2 rest later found →
      Binds parameters (listed :: rest) later
        (listed.named (bind parameters listed.proposal listed.value).1 :: found)

namespace Binds

variable {parameters middle later : Parameters} {first second : List Listed}
  {before after : List (Predicate String)}

/-- What is bound on the way to the middle and from there on. -/
theorem append (hFirst : Binds parameters first middle before)
    (hSecond : Binds middle second later after) :
    Binds parameters (first ++ second) later (before ++ after) := by
  induction hFirst with
  | nil parameters => exact hSecond
  | cons hValue hRest ih => exact .cons hValue (ih hSecond)

theorem eq_bindAll (h : Binds parameters first later before) :
    later = bindAll parameters (first.map Listed.entry) := by
  induction h with
  | nil parameters => rfl
  | cons hValue hRest ih => exact ih

theorem isPrefix (h : Binds parameters first later before) : parameters <+: later := by
  rw [h.eq_bindAll]
  exact isPrefix_bindAll _ _

theorem nodup_keys (h : Binds parameters first later before) (hNodup : parameters.keys.Nodup) :
    later.keys.Nodup := by
  rw [h.eq_bindAll]
  exact nodup_keys_bindAll hNodup _

/-- The comparisons have the names that were new, one after the other, and each has one. -/
theorem found_eq (h : Binds parameters first later before) :
    ∃ names, later.keys = parameters.keys ++ names ∧ names.length = first.length ∧
      before = List.zipWith Listed.named first names ∧
      before.flatMap Predicate.parameters = names := by
  induction h with
  | nil parameters => exact ⟨[], by simp, rfl, rfl, rfl⟩
  | @cons parameters later listed rest found hValue hRest ih =>
      obtain ⟨names, hKeys, hLength, hFound, hNames⟩ := ih
      refine ⟨(bind parameters listed.proposal listed.value).1 :: names, ?_, ?_, ?_, ?_⟩
      · rw [hKeys, bind_snd]
        simp
      · simp [hLength]
      · rw [hFound]
        rfl
      · rw [List.flatMap_cons, hNames, Listed.named, Predicate.parameters_map, hValue]
        rfl

end Binds

end Statement

/-! ## Comparisons -/

theorem Column.compile_ok {scope : Scope} {column : Column} {reference : Reference}
    (h : column.compile scope = .ok reference) : reference = column.described scope := by
  unfold Column.compile at h
  split at h
  · next hPath =>
      have hCurrent : column.isCurrent = true := by simp [Column.isCurrent, hPath]
      rw [Column.described, hCurrent]
      exact (Except.ok.inj h).symm
  · next hPath =>
      have hCurrent : column.isCurrent = false := by simpa [Column.isCurrent] using hPath
      split at h
      · rw [Column.described, hCurrent]
        exact (Except.ok.inj h).symm
      · cases h

/-- What filters become: how they bind their values, what their comparisons are as long as the
parameters only grow, and when the result can be read back. -/
structure Compiles (scope : Scope) (stem : String) (parameters : Parameters)
    (filters : List Filter) (conditions : List Condition) (later : Parameters) : Prop where
  binds : Binds parameters (Filter.listed.listedEach scope stem filters) later
    (bound ((conditions.flatMap Formula.atoms).map Test.predicate))
  described : ∀ final : Parameters, later <+: final → final.keys.Nodup →
    conditions.map (Formula.map fun test => test.predicate.map (final.lookup ·)) =
      filters.map (Formula.map fun comparison => (comparison.described scope).map some)
  isPlain : stem ≠ "" → filters.all Filter.isBuiltIn →
    ∀ condition ∈ conditions, condition.IsPlain

/-- A value that is bound is found under its name as long as the parameters only grow. -/
theorem lookup_bind {parameters : Parameters} {proposal : String} {value : Json}
    {final : Parameters} (hPrefix : (bind parameters proposal value).2 <+: final)
    (hNodup : final.keys.Nodup) :
    final.lookup (bind parameters proposal value).1 = some value := by
  refine lookup_of_isPrefix hPrefix hNodup ?_
  rw [bind_snd]
  simp

theorem isWord_bind {parameters : Parameters} {stem : String} (hStem : stem ≠ "") (name : String)
    (value : Json) : IsWord (bind parameters (stem ++ name) value).1 := by
  refine (isNumbering_bind parameters (stem ++ name) value).isWord (isWord_bareWord ?_)
  intro hEmpty
  exact hStem (String.append_eq_empty_iff.1 hEmpty).1

/-- A single comparison, from what is known of its test. -/
theorem Compiles.atom {scope : Scope} {stem : String} {parameters later : Parameters}
    {comparison : Comparison} {test : Test}
    (hBinds : Binds parameters (comparison.listed scope stem) later (bound [test.predicate]))
    (hDescribed : ∀ final : Parameters, later <+: final → final.keys.Nodup →
      test.predicate.map (final.lookup ·) = (comparison.described scope).map some)
    (hPlain : stem ≠ "" → comparison.isBuiltIn → test.IsPlain) :
    Compiles scope stem parameters [.atom comparison] [.atom test] later := by
  constructor
  · simpa [Filter.listed.listedEach, Filter.listed, Formula.atoms] using hBinds
  · intro final hPrefix hNodup
    simp only [List.map_cons, List.map_nil, Formula.map, hDescribed final hPrefix hNodup]
  · intro hStem hBuiltIn condition hMem
    obtain rfl := List.mem_singleton.1 hMem
    intro test hTest
    obtain rfl := List.mem_singleton.1 hTest
    exact hPlain hStem (by simpa [Filter.isBuiltIn, Formula.atoms] using hBuiltIn)

theorem Comparison.compile_ok {scope : Scope} {stem : String} {parameters later : Parameters}
    {comparison : Comparison} {test : Test}
    (h : comparison.compile scope stem parameters = .ok (test, later)) :
    Compiles scope stem parameters [.atom comparison] [.atom test] later := by
  cases comparison with
  | «exists» table => cases h
  | unary operator column =>
      obtain ⟨left, hLeft, hTest⟩ := Compiled.bind_eq_ok.1 h
      obtain ⟨rfl, rfl⟩ := Prod.mk.inj (Except.ok.inj hTest)
      rw [Column.compile_ok hLeft]
      exact .atom (.nil _) (fun final _ _ => rfl) (fun _ hBuiltIn => hBuiltIn)
  | binary operator column operand =>
      cases operand with
      | column other =>
          obtain ⟨left, hLeft, hRest⟩ := Compiled.bind_eq_ok.1 h
          obtain ⟨right, hRight, hTest⟩ := Compiled.bind_eq_ok.1 hRest
          obtain ⟨rfl, rfl⟩ := Prod.mk.inj (Except.ok.inj hTest)
          rw [Column.compile_ok hLeft, Column.compile_ok hRight]
          exact .atom (.nil _) (fun final _ _ => rfl) (fun _ hBuiltIn => ⟨hBuiltIn, trivial⟩)
      | scalar value type =>
          obtain ⟨left, hLeft, hTest⟩ := Compiled.bind_eq_ok.1 h
          let named := bind parameters (stem ++ column.name) value
          have hTest : (Test.binary left operator (.placeholder named.1), named.2) =
              (test, later) := Except.ok.inj hTest
          obtain ⟨rfl, rfl⟩ := Prod.mk.inj hTest
          rw [Column.compile_ok hLeft]
          refine .atom (.cons rfl (.nil _)) ?_ ?_
          · intro final hPrefix hNodup
            simp only [Test.predicate, Term.side, Predicate.map, Side.map, Comparison.described,
              named, lookup_bind hPrefix hNodup]
          · intro hStem hBuiltIn
            exact ⟨hBuiltIn, isWord_bind hStem column.name value⟩
  | array operator column values type =>
      obtain ⟨left, hLeft, hTest⟩ := Compiled.bind_eq_ok.1 h
      let named := bind parameters (stem ++ column.name) (.array values)
      have hTest : (Test.array left operator named.1, named.2) = (test, later) :=
        Except.ok.inj hTest
      obtain ⟨rfl, rfl⟩ := Prod.mk.inj hTest
      rw [Column.compile_ok hLeft]
      refine .atom (.cons rfl (.nil _)) ?_ ?_
      · intro final hPrefix hNodup
        simp only [Test.predicate, Predicate.map, Side.map, Comparison.described, named,
          lookup_bind hPrefix hNodup]
      · intro hStem hBuiltIn
        exact ⟨hBuiltIn, isWord_bind hStem column.name (.array values)⟩

/-! ## Filters -/

namespace Compiles

variable {scope : Scope} {stem : String} {parameters middle later : Parameters}

theorem nil (scope : Scope) (stem : String) (parameters : Parameters) :
    Compiles scope stem parameters [] [] parameters :=
  ⟨.nil _, fun _ _ _ => rfl, fun _ _ _ hMem => absurd hMem List.not_mem_nil⟩

/-- The first filter binds its values before the others do. -/
theorem cons {filter : Filter} {condition : Condition} {filters : List Filter}
    {conditions : List Condition} (hFirst : Compiles scope stem parameters [filter] [condition] middle)
    (hRest : Compiles scope stem middle filters conditions later) :
    Compiles scope stem parameters (filter :: filters) (condition :: conditions) later := by
  constructor
  · have hBinds := hFirst.binds.append hRest.binds
    simpa [Filter.listed.listedEach] using hBinds
  · intro final hPrefix hNodup
    have hHead := hFirst.described final (hRest.binds.isPrefix.trans hPrefix) hNodup
    have hTail := hRest.described final hPrefix hNodup
    rw [List.map_cons, List.map_cons, hTail]
    rw [List.map_cons, List.map_cons] at hHead
    rw [(List.cons.inj hHead).1]
  · intro hStem hBuiltIn found hMem
    rw [List.all_cons, Bool.and_eq_true] at hBuiltIn
    rcases List.mem_cons.1 hMem with rfl | hMem
    · exact hFirst.isPlain hStem (by simp [hBuiltIn.1]) _ (List.mem_singleton_self _)
    · exact hRest.isPlain hStem hBuiltIn.2 found hMem

/-- A filter made of parts, from what is known of the parts and of how it is made. -/
theorem wrap {token : String} {filters : List Filter} {conditions : List Condition}
    (h : Compiles scope (stem ++ token) parameters filters conditions later) {filter : Filter}
    {condition : Condition}
    (hListed : filter.listed scope stem = Filter.listed.listedEach scope (stem ++ token) filters)
    (hAtoms : filter.atoms = filters.flatMap Formula.atoms)
    (hAtoms' : condition.atoms = conditions.flatMap Formula.atoms)
    (hMap : ∀ {γ : Type} (f : Test → γ) (g : Comparison → γ),
      conditions.map (Formula.map f) = filters.map (Formula.map g) →
        Formula.map f condition = Formula.map g filter) :
    Compiles scope stem parameters [filter] [condition] later := by
  constructor
  · simpa [Filter.listed.listedEach, hListed, hAtoms'] using h.binds
  · intro final hPrefix hNodup
    rw [List.map_singleton, List.map_singleton, hMap _ _ (h.described final hPrefix hNodup)]
  · intro hStem hBuiltIn found hMem
    obtain rfl := List.mem_singleton.1 hMem
    intro test hTest
    rw [hAtoms'] at hTest
    obtain ⟨part, hPart, hTest⟩ := List.mem_flatMap.1 hTest
    have hToken : stem ++ token ≠ "" := fun hEmpty => hStem (String.append_eq_empty_iff.1 hEmpty).1
    refine h.isPlain hToken ?_ part hPart test hTest
    simpa [Filter.isBuiltIn, hAtoms] using hBuiltIn

end Compiles

/-- All parts of a combination, from what is known of each. -/
theorem Filter.compileEach_ok {scope : Scope} {stem : String} {parts : List Filter}
    (hParts : ∀ part ∈ parts, ∀ {parameters later : Parameters} {condition : Condition},
      Filter.compile scope stem parameters part = .ok (condition, later) →
        Compiles scope stem parameters [part] [condition] later)
    {parameters later : Parameters} {conditions : List Condition}
    (h : Filter.compile.compileEach scope stem parameters parts = .ok (conditions, later)) :
    Compiles scope stem parameters parts conditions later := by
  induction parts generalizing parameters conditions with
  | nil =>
      obtain ⟨rfl, rfl⟩ := Prod.mk.inj (Except.ok.inj h)
      exact .nil _ _ _
  | cons part rest ih =>
      obtain ⟨⟨condition, middle⟩, hPart, hMore⟩ := Compiled.bind_eq_ok.1 h
      obtain ⟨⟨others, final⟩, hRest, hFound⟩ := Compiled.bind_eq_ok.1 hMore
      obtain ⟨rfl, rfl⟩ := Prod.mk.inj (Except.ok.inj hFound)
      refine .cons (hParts part List.mem_cons_self hPart) (ih ?_ hRest)
      exact fun other hMem => hParts other (List.mem_cons_of_mem _ hMem)

theorem Filter.compile_ok {scope : Scope} {filter : Filter} :
    ∀ {stem : String} {parameters later : Parameters} {condition : Condition},
      filter.compile scope stem parameters = .ok (condition, later) →
        Compiles scope stem parameters [filter] [condition] later := by
  induction filter using Formula.induct with
  | atom comparison =>
      intro stem parameters later condition h
      obtain ⟨⟨test, final⟩, hTest, hFound⟩ := Compiled.bind_eq_ok.1 h
      obtain ⟨rfl, rfl⟩ := Prod.mk.inj (Except.ok.inj hFound)
      exact Comparison.compile_ok hTest
  | not part ih =>
      intro stem parameters later condition h
      obtain ⟨⟨inner, final⟩, hPart, hFound⟩ := Compiled.bind_eq_ok.1 h
      obtain ⟨rfl, rfl⟩ := Prod.mk.inj (Except.ok.inj hFound)
      refine (ih hPart).wrap ?_ ?_ ?_ ?_
      · simp [Filter.listed, Filter.listed.listedEach]
      · simp [Formula.atoms]
      · simp [Formula.atoms]
      · intro γ f g hMap
        simpa [Formula.map] using hMap
  | combination parts ih =>
      constructor
      · intro stem parameters later condition h
        obtain ⟨⟨inner, final⟩, hParts, hFound⟩ := Compiled.bind_eq_ok.1 h
        obtain ⟨rfl, rfl⟩ := Prod.mk.inj (Except.ok.inj hFound)
        refine (Filter.compileEach_ok (fun part hMem => ih part hMem) hParts).wrap rfl ?_ ?_ ?_
        · simp
        · simp
        · intro γ f g hMap
          simpa using hMap
      · intro stem parameters later condition h
        obtain ⟨⟨inner, final⟩, hParts, hFound⟩ := Compiled.bind_eq_ok.1 h
        obtain ⟨rfl, rfl⟩ := Prod.mk.inj (Except.ok.inj hFound)
        refine (Filter.compileEach_ok (fun part hMem => ih part hMem) hParts).wrap rfl ?_ ?_ ?_
        · simp
        · simp
        · intro γ f g hMap
          simpa using hMap

end N1qlConnector
