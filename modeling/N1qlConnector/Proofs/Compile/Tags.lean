import N1qlConnector.Proofs.Compile.Totals
import N1qlConnector.Proofs.Statement.Uncommented

/-!
# Tags change nothing but comments

A request is compiled twice, with tags and without. Both runs fail for the same reason, or they bind
the same parameters and make the same statements up to comments, whatever names the request has.

What is compiled does not depend on tags at all: they come in when the text of a statement is made,
and a statement is absent or not before it has a text. So it is left to look at the two texts of one
statement. The lexemes that matter are the same in both (`Select.spells`, `TotalsSelect.spells`),
and the text without tags has no others (`Select.uncommented`, `TotalsSelect.uncommented`).

## Main results

* `Request.compile_retagged` : the two runs of the compiler.
-/

namespace N1qlConnector

open Statement

/-- The same settings with tags on or off. -/
def Settings.tagged (settings : Settings) (enabled : Bool) : Settings :=
  { settings with debuggingTags := enabled }

/-- Two statements that differ in comments at most. The one without tags has none. -/
structure Prepared.Retagged (tagged plain : Prepared) : Prop where
  parameters : tagged.parameters = plain.parameters
  /-- The lexemes of one text that are not comments are all lexemes of the other. -/
  lexemes : ∃ found, Statement.lexemes tagged.text = some found ∧ lex plain.text = some found
  isEmpty : tagged.isEmpty = plain.isEmpty

/-- Two runs of the compiler that fail alike, or make statements that differ in comments at most. -/
inductive Compiled.Retagged : Compiled CompiledRequest → Compiled CompiledRequest → Prop
  | error (cause : CompileError) : Retagged (.error cause) (.error cause)
  | ok {tagged plain : CompiledRequest} (rows : tagged.rows.Retagged plain.rows)
      (totals : tagged.totals.Retagged plain.totals) : Retagged (.ok tagged) (.ok plain)

/-! ## Statements -/

/-- A text with lexemes is not empty. -/
theorem isEmpty_of_spells {text : String} {found : List Lexeme} (h : Spells text found)
    (hNe : found ≠ []) : text.isEmpty = false := by
  rw [Bool.eq_false_iff, ne_eq, String.isEmpty_iff]
  rintro rfl
  exact hNe h.eq_nil

namespace Prepared

/-- An absent statement. -/
theorem Retagged.absent (parameters : Parameters) :
    Retagged ⟨"", parameters⟩ ⟨"", parameters⟩ :=
  ⟨rfl, ⟨[], rfl, rfl⟩, rfl⟩

/-- Two texts of one statement. -/
theorem Retagged.of_spells {tagged plain : Prepared} {found : List Lexeme}
    (hParameters : tagged.parameters = plain.parameters) (hTagged : Spells tagged.text found)
    (hPlain : Spells plain.text found) (hUncommented : Uncommented plain.text)
    (hNe : found ≠ []) : tagged.Retagged plain where
  parameters := hParameters
  lexemes := ⟨found, hTagged, hPlain.lex_eq hUncommented⟩
  isEmpty := (isEmpty_of_spells hTagged hNe).trans (isEmpty_of_spells hPlain hNe).symm

theorem retagged_ofRows (tags : Tags) (select : Option Select) (parameters : Parameters)
    (h : ∀ found ∈ select, found.IsPlain) :
    (ofRows tags (select, parameters)).Retagged (ofRows .off (select, parameters)) := by
  cases select with
  | none => exact .absent parameters
  | some select =>
      have hPlain := h select rfl
      have hNe : select.lexemes ≠ [] := by
        obtain ⟨more, hCons⟩ := Rule.lexemes_eq_cons select
        rw [hCons]
        exact List.cons_ne_nil _ _
      exact .of_spells rfl (spells_ofRows tags parameters hPlain)
        (spells_ofRows .off parameters hPlain) (Select.uncommented hPlain) hNe

theorem retagged_ofTotals (tags : Tags) (select : Option TotalsSelect) (parameters : Parameters)
    (h : ∀ found ∈ select, found.IsPlain) :
    (ofTotals tags (select, parameters)).Retagged (ofTotals .off (select, parameters)) := by
  cases select with
  | none => exact .absent parameters
  | some select =>
      have hPlain := h select rfl
      exact .of_spells rfl (spells_ofTotals tags parameters hPlain)
        (spells_ofTotals .off parameters hPlain) (TotalsSelect.uncommented hPlain)
        (List.cons_ne_nil _ _)

end Prepared

/-! ## Requests -/

section Compiled

variable {surroundings : Surroundings} {table : TableName} {scope : Scope} {query : Query}
  {parameters : Parameters}

/-- An aggregate statement is plain if all operators of the request are known. -/
theorem Query.isPlain_of_compileTotals {select : Option TotalsSelect}
    (h : query.compileTotals surroundings table scope = .ok (select, parameters))
    (hBuiltIn : query.isBuiltIn) (hStem : scope.stem ≠ "") : ∀ found ∈ select, found.IsPlain := by
  rintro found rfl
  obtain ⟨hAggregates, condition, order, hCondition, hItems, -, hRows⟩ :=
    Query.compileTotals_ok_some h
  refine ⟨compileAggregates_ne_nil hAggregates hItems, ?_⟩
  rw [hRows]
  intro own hOwn
  have hFilter : query.filter.toList.all Filter.isBuiltIn := by
    have hAll := Query.all_isBuiltIn_filter hBuiltIn
    cases hOwn : query.filter with
    | none => rfl
    | some own => simpa [hOwn] using hAll
  exact (Filter.compileOption_ok hCondition).isPlain hStem hFilter own (Option.mem_toList.2 hOwn)

end Compiled

/-- With tags and without, a request is compiled to the same statements up to comments, or not at
all. -/
theorem Request.compile_retagged {request : Request} (hBuiltIn : request.query.isBuiltIn)
    (config : Config) (settings : Settings) :
    (request.compile config (settings.tagged true)).Retagged
      (request.compile config (settings.tagged false)) := by
  rw [request.compile_eq, request.compile_eq]
  cases hRows : request.query.compileRows (request.surroundings config) request.table
      (.root request.table) with
  | error cause => exact .error cause
  | ok rows =>
      cases hTotals : request.query.compileTotals (request.surroundings config) request.table
          (.root request.table) with
      | error cause => exact .error cause
      | ok totals =>
          obtain ⟨select, parameters⟩ := rows
          obtain ⟨totals, counted⟩ := totals
          have hStem : "p_" ≠ "" := by decide
          have hSelect : ∀ found ∈ select, found.IsPlain :=
            (Query.compileWith_ok hRows).isPlain hStem (Query.all_isBuiltIn_filter hBuiltIn)
              hBuiltIn
          have hCounted := Query.isPlain_of_compileTotals hTotals hBuiltIn hStem
          exact .ok (Prepared.retagged_ofRows _ select parameters hSelect)
            (Prepared.retagged_ofTotals _ totals counted hCounted)

/-- A request whose names look like tags, for rows and for totals. -/
def commentedRequest : Request where
  table := ⟨["/*<where>*/"]⟩
  relationships := [⟨⟨["/*<where>*/"]⟩, [("r", ⟨⟨["t"]⟩, .object, [("*/", "\x60/*")]⟩)]⟩]
  query := {
    fields := some [("/*", .column "\"/*" none), ("*/", .relationship "r" {
      fields := some [("\x60", .column "\\" none)]
      aggregates := none
      filter := some (.not (.atom (.array .isIn (.ofCurrent "/* \x60 */") [] none)))
      limit := some 3
      offset := none
      order := none })]
    aggregates := some [("*/ COUNT(*) /*", .starCount)]
    filter := some (.atom (.binary .equal (.ofCurrent "\x60*/\x60") (.scalar (.nat 1) none)))
    limit := none
    offset := some 1
    order := none }

theorem compile_retagged_commented :
    commentedRequest.query.isBuiltIn ∧ ∃ tagged plain,
      commentedRequest.compile bucketConfig ⟨true, some 9⟩ = .ok tagged ∧
      commentedRequest.compile bucketConfig ⟨false, some 9⟩ = .ok plain ∧
      plain.totals.text ≠ "" ∧ Compiled.Retagged (.ok tagged) (.ok plain) := by
  have hBuiltIn : commentedRequest.query.isBuiltIn := by decide
  obtain ⟨tagged, hTagged⟩ : ∃ tagged,
      commentedRequest.compile bucketConfig ⟨true, some 9⟩ = .ok tagged := ⟨_, rfl⟩
  obtain ⟨plain, hPlain, hText⟩ : ∃ plain,
      commentedRequest.compile bucketConfig ⟨false, some 9⟩ = .ok plain ∧ plain.totals.text ≠ "" :=
    ⟨_, rfl, by decide +kernel⟩
  have hRetagged := Request.compile_retagged hBuiltIn bucketConfig ⟨false, some 9⟩
  simp only [Settings.tagged, hTagged, hPlain] at hRetagged
  exact ⟨hBuiltIn, tagged, plain, hTagged, hPlain, hText, hRetagged⟩

end N1qlConnector
