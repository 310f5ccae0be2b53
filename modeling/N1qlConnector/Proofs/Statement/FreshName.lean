import Mathlib.Data.List.Nodup
import Mathlib.Data.List.Perm.Subperm
import N1qlConnector.Proofs.Statement.Lexeme

/-!
# Fresh names and the parameters of a statement

A fresh name is looked for among as many numbered names as there are taken ones. That is enough:
the proposal is taken as well, and no numbered name is the proposal, so if all of them were taken
there would be one more taken name than there are. Hence a fresh name is never taken, and a value
that is bound never takes the place of another one.

Whatever is bound during a compilation is bound by `bind`, one value after the other. `bindAll` is
that, for values that are known in advance, and what it does to a map of parameters is said once
here: the map grows at its end, by one entry a value.

## Main results

* `freshName_cases` : which name is chosen.
* `freshName_notMem` : a fresh name is not taken.
* `keys_bindAll`, `values_bindAll` : what the parameters are after binding values.
* `lookup_of_isPrefix` : an entry stays what it is while the map grows.
-/

namespace N1qlConnector.Statement

/-! ## Numbered names -/

theorem numbered_injective (proposal : String) : Function.Injective (numbered proposal) := by
  intro m n h
  have hChars := congrArg String.toList h
  simp only [numbered, String.toList_append] at hChars
  have hDigits : (toString m).toList = (toString n).toList := List.append_cancel_left hChars
  rw [show (toString m).toList = Nat.toDigits 10 m from Nat.toList_repr,
    show (toString n).toList = Nat.toDigits 10 n from Nat.toList_repr] at hDigits
  have hNumber := congrArg (fun digits => Nat.ofDigitChars 10 digits 0) hDigits
  simpa only [Nat.ofDigitChars_ten_toDigits] using hNumber

/-- A numbered name is longer than the name that was numbered. -/
theorem numbered_ne_self (proposal : String) (n : Nat) : numbered proposal n ≠ proposal := by
  intro h
  have hLength := congrArg String.length h
  simp only [numbered, String.length_append] at hLength
  have hMark : "_".length = 1 := rfl
  omega

/-! ## Fresh names -/

/-- Not all names that are tried are taken. -/
theorem exists_numbered_notMem {taken : List String} {proposal : String}
    (hTaken : proposal ∈ taken) : ∃ n < taken.length, numbered proposal (n + 1) ∉ taken := by
  by_contra hAll
  push Not at hAll
  let tried := proposal :: (List.range taken.length).map fun n => numbered proposal (n + 1)
  have hNodup : tried.Nodup := by
    refine List.nodup_cons.2 ⟨?_, ?_⟩
    · intro hMem
      obtain ⟨n, -, hEq⟩ := List.mem_map.1 hMem
      exact numbered_ne_self proposal (n + 1) hEq
    · refine List.nodup_range.map ?_
      intro m n h
      have hSucc := numbered_injective proposal h
      omega
  have hSubset : tried ⊆ taken := by
    intro name hMem
    rcases List.mem_cons.1 hMem with rfl | hMem
    · exact hTaken
    · obtain ⟨n, hn, rfl⟩ := List.mem_map.1 hMem
      exact hAll n (List.mem_range.1 hn)
  have hLength := (hNodup.subperm hSubset).length_le
  simp only [tried, List.length_cons, List.length_map, List.length_range] at hLength
  omega

/-- The proposal if it is free, else the proposal with the least number that makes it free. -/
theorem freshName_cases (taken : List String) (proposal : String) :
    (proposal ∉ taken ∧ freshName taken proposal = proposal) ∨
      ∃ n, freshName taken proposal = numbered proposal (n + 1) ∧
        numbered proposal (n + 1) ∉ taken ∧ proposal ∈ taken ∧
        ∀ m < n, numbered proposal (m + 1) ∈ taken := by
  by_cases hTaken : proposal ∈ taken
  · right
    obtain ⟨bound, hBound, hFree⟩ := exists_numbered_notMem hTaken
    have hSome : ((List.range taken.length).find?
        fun n => numbered proposal (n + 1) ∉ taken).isSome := by
      rw [List.find?_isSome]
      exact ⟨bound, List.mem_range.2 hBound, by simpa using hFree⟩
    obtain ⟨n, hn⟩ := Option.isSome_iff_exists.1 hSome
    have hName : freshName taken proposal = numbered proposal (n + 1) := by
      simp only [freshName, if_pos hTaken, List.find?_map]
      rw [show (List.range taken.length).find?
        ((fun x => decide (x ∉ taken)) ∘ fun n => numbered proposal (n + 1)) = some n from hn]
      rfl
    obtain ⟨hNotMem, -, hLeast⟩ := List.find?_range_eq_some.1 hn
    refine ⟨n, hName, by simpa using hNotMem, hTaken, ?_⟩
    intro m hm
    simpa using hLeast m hm
  · left
    exact ⟨hTaken, freshName_eq_self hTaken⟩

theorem freshName_notMem (taken : List String) (proposal : String) :
    freshName taken proposal ∉ taken := by
  rcases freshName_cases taken proposal with ⟨hFree, hName⟩ | ⟨n, hName, hFree, -⟩
  · rw [hName]; exact hFree
  · rw [hName]; exact hFree

/-- A text, or the text with a number. -/
def IsNumbering (proposal name : String) : Prop :=
  name = proposal ∨ ∃ n, name = numbered proposal (n + 1)

theorem isNumbering_freshName (taken : List String) (proposal : String) :
    IsNumbering proposal (freshName taken proposal) := by
  rcases freshName_cases taken proposal with ⟨-, hName⟩ | ⟨n, hName, -⟩
  · exact .inl hName
  · exact .inr ⟨n, hName⟩

/-! ## Bare words -/

theorem all_isWordChar_bareWord (text : String) : (bareWord text).toList.all isWordChar := by
  rw [bareWord, String.toList_ofList, List.all_map, List.all_eq_true]
  intro c _
  by_cases hc : (c.isAlphanum || c = '_') = true
  · simp only [Function.comp_apply, if_pos hc]
    exact hc
  · simp only [Function.comp_apply, if_neg hc]
    decide

theorem isWord_bareWord {text : String} (h : text ≠ "") : IsWord (bareWord text) := by
  refine ⟨?_, all_isWordChar_bareWord text⟩
  intro hEmpty
  have hChars := congrArg String.toList hEmpty
  rw [bareWord, String.toList_ofList] at hChars
  have hNil : text.toList = [] := by simpa using hChars
  exact h (String.toList_eq_nil_iff.1 hNil)

theorem all_isWordChar_numbered {text : String} (h : text.toList.all isWordChar) (n : Nat) :
    (numbered text n).toList.all isWordChar := by
  have hDigits : (toString n).toList.all isWordChar := by
    rw [show (toString n).toList = Nat.toDigits 10 n from Nat.toList_repr, List.all_eq_true]
    intro c hc
    exact isWordChar_of_isDigit (Nat.isDigit_of_mem_toDigits (by decide) (by decide) hc)
  have hMark : "_".toList.all isWordChar := by decide
  simp only [numbered, String.toList_append, List.all_append, hDigits, hMark, h, Bool.and_self]

namespace IsNumbering

variable {proposal name : String}

theorem all_isWordChar (h : IsNumbering proposal name) (hProposal : proposal.toList.all isWordChar) :
    name.toList.all isWordChar := by
  rcases h with rfl | ⟨n, rfl⟩
  · exact hProposal
  · exact all_isWordChar_numbered hProposal (n + 1)

theorem isWord (h : IsNumbering proposal name) (hProposal : IsWord proposal) : IsWord name := by
  refine ⟨?_, h.all_isWordChar hProposal.2⟩
  rcases h with rfl | ⟨n, rfl⟩
  · exact hProposal.1
  · intro hEmpty
    have hChars := congrArg String.toList hEmpty
    simp [numbered] at hChars

end IsNumbering

/-! ## Binding values -/

section Bind

variable (parameters : Parameters) (proposal : String) (value : Json)

theorem bind_snd :
    (bind parameters proposal value).2 =
      parameters ++ [((bind parameters proposal value).1, value)] :=
  Entries.insert_of_notMem (freshName_notMem _ _) value

theorem isNumbering_bind :
    IsNumbering (bareWord proposal) (bind parameters proposal value).1 :=
  isNumbering_freshName _ _

end Bind

/-- The parameters after binding values one after the other, each with the name it is given for. -/
def bindAll (parameters : Parameters) (values : List (String × Json)) : Parameters :=
  values.foldl (fun bound entry => (bind bound entry.1 entry.2).2) parameters

@[simp] theorem bindAll_nil (parameters : Parameters) : bindAll parameters [] = parameters := rfl

theorem bindAll_cons (parameters : Parameters) (entry : String × Json)
    (rest : List (String × Json)) :
    bindAll parameters (entry :: rest) = bindAll (bind parameters entry.1 entry.2).2 rest := rfl

theorem bindAll_append (parameters : Parameters) (first second : List (String × Json)) :
    bindAll parameters (first ++ second) = bindAll (bindAll parameters first) second :=
  List.foldl_append

/-- Binding appends entries and changes none. -/
theorem isPrefix_bindAll (parameters : Parameters) (values : List (String × Json)) :
    parameters <+: bindAll parameters values := by
  induction values generalizing parameters with
  | nil => exact List.prefix_refl _
  | cons entry rest ih =>
      have hFirst : parameters <+: (bind parameters entry.1 entry.2).2 := by
        rw [bind_snd]
        exact List.prefix_append _ _
      exact hFirst.trans (ih _)

/-- The values are the bound ones, in their order. -/
theorem values_bindAll (parameters : Parameters) (values : List (String × Json)) :
    (bindAll parameters values).map Prod.snd =
      parameters.map Prod.snd ++ values.map Prod.snd := by
  induction values generalizing parameters with
  | nil => simp
  | cons entry rest ih =>
      rw [bindAll_cons, ih, bind_snd]
      simp

/-- Every new key is the bare word that was proposed for it, or that with a number. -/
theorem keys_bindAll (parameters : Parameters) (values : List (String × Json)) :
    ∃ names, (bindAll parameters values).keys = parameters.keys ++ names ∧
      List.Forall₂ (fun entry name => IsNumbering (bareWord entry.1) name) values names := by
  induction values generalizing parameters with
  | nil => exact ⟨[], by simp, .nil⟩
  | cons entry rest ih =>
      obtain ⟨names, hKeys, hNames⟩ := ih (bind parameters entry.1 entry.2).2
      refine ⟨(bind parameters entry.1 entry.2).1 :: names, ?_, ?_⟩
      · rw [bindAll_cons, hKeys, bind_snd]
        simp
      · exact .cons (isNumbering_bind parameters entry.1 entry.2) hNames

/-- Distinct keys stay distinct. -/
theorem nodup_keys_bindAll {parameters : Parameters} (h : parameters.keys.Nodup)
    (values : List (String × Json)) : (bindAll parameters values).keys.Nodup := by
  induction values generalizing parameters with
  | nil => exact h
  | cons entry rest ih => exact ih (Entries.nodup_keys_insert h _ _)

/-! ## Growing parameters -/

theorem lookup_eq_some_of_mem {parameters : Parameters} (hNodup : parameters.keys.Nodup)
    {name : String} {value : Json} (h : (name, value) ∈ parameters) :
    parameters.lookup name = some value := by
  induction parameters with
  | nil => cases h
  | cons entry rest ih =>
      obtain ⟨key, first⟩ := entry
      rw [Entries.keys_cons, List.nodup_cons] at hNodup
      rcases List.mem_cons.1 h with hEq | hMem
      · obtain ⟨rfl, rfl⟩ := Prod.mk.inj hEq
        exact List.lookup_cons_self
      · have hNe : name ≠ key := by
          rintro rfl
          exact hNodup.1 (List.mem_map.2 ⟨(name, value), hMem, rfl⟩)
        rw [List.lookup_cons, beq_false_of_ne hNe]
        exact ih hNodup.2 hMem

/-- What is bound once is found in every later map. -/
theorem lookup_of_isPrefix {parameters later : Parameters} (hPrefix : parameters <+: later)
    (hNodup : later.keys.Nodup) {name : String} {value : Json} (h : (name, value) ∈ parameters) :
    later.lookup name = some value :=
  lookup_eq_some_of_mem hNodup (hPrefix.subset h)

end N1qlConnector.Statement
