import Mathlib.Order.Bounds.Basic
import N1qlConnector.Proofs.Compile.Scope

/-!
# The search for a free name

A free name can be found by counting up: as long as the name is taken, the count goes up by one and
the name becomes the base with the count. Nothing in this search bounds the count, while `freshName`
tries as many numbers as there are taken names and no more. Both come to the same.

What bounds the search are the taken names. The names it goes through are all different, so once
the count has gone up as often as there are taken names, the name that it tries is not among them.
A counter that can count the taken names therefore does not overflow.

Parameters and aliases are named by this search. They differ in the name it starts from: that of a
parameter is the proposal, that of an alias the name of the table, or where that is taken the name
of the table with the name of the field.

## Main results

* `FirstFree.searchEnds` : counting up ends, with the least number that makes the base free.
* `exists_searchEnds_freshName` : it ends with the fresh name, after few enough steps.
* `names_firstFree` : what names parameters and aliases get.
-/

namespace N1qlConnector

namespace Statement

variable {taken : List String} {base : String}

/-! ## Counting up -/

/-- What the search holds: the name that it tries, and how often it has counted up. -/
structure Candidate where
  name : String
  count : Nat

namespace Candidate

/-- The search starts with the base itself. -/
def first (base : String) : Candidate := ⟨base, 0⟩

/-- Counting up makes the base with the new count the name to try. -/
def next (base : String) (candidate : Candidate) : Candidate :=
  ⟨numbered base (candidate.count + 1), candidate.count + 1⟩

end Candidate

/-- A search from one candidate to the one at which it stops. -/
inductive Search (taken : List String) (base : String) : Candidate → Candidate → Prop
  | stop {candidate : Candidate} (free : candidate.name ∉ taken) :
      Search taken base candidate candidate
  | next {candidate found : Candidate} (isTaken : candidate.name ∈ taken)
      (rest : Search taken base (candidate.next base) found) : Search taken base candidate found

/-- A search stops at one candidate only. -/
theorem Search.unique {candidate found other : Candidate}
    (h : Search taken base candidate found) (hOther : Search taken base candidate other) :
    found = other := by
  induction h with
  | stop free =>
      cases hOther with
      | stop => rfl
      | next isTaken => exact absurd isTaken free
  | next isTaken _ ih =>
      cases hOther with
      | stop free => exact absurd isTaken free
      | next _ hRest => exact ih hRest

/-- The search from the base ends at this candidate, and at no other. -/
def SearchEnds (taken : List String) (base : String) (found : Candidate) : Prop :=
  ∀ other, Search taken base (Candidate.first base) other ↔ other = found

/-- Once the name has a number, the search goes on to the least number that makes it free. -/
theorem search_of_isLeast {n least : Nat}
    (h : IsLeast {k | n ≤ k ∧ numbered base k ∉ taken} least) :
    Search taken base ⟨numbered base n, n⟩ ⟨numbered base least, least⟩ := by
  have hLe : n ≤ least := h.1.1
  have hFree : numbered base least ∉ taken := h.1.2
  -- The induction is on how far there is still to count.
  induction hDistance : least - n generalizing n with
  | zero =>
      obtain rfl : n = least := by omega
      exact .stop hFree
  | succ distance ih =>
      have hTaken : numbered base n ∈ taken := by
        by_contra hNotMem
        have hLeast : least ≤ n := h.2 ⟨le_rfl, hNotMem⟩
        omega
      have hStill : IsLeast {k | n + 1 ≤ k ∧ numbered base k ∉ taken} least := by
        refine ⟨⟨by omega, hFree⟩, ?_⟩
        rintro k ⟨hk, hNotMem⟩
        exact h.2 ⟨by omega, hNotMem⟩
      have hDistance' : least - (n + 1) = distance := by omega
      exact .next hTaken (ih hStill hStill.1.1 hDistance')

/-! ## The first free name -/

/-- The base if it is free, and else the base with the least number from 1 on that makes it free.
The count is how far one has to count for it. -/
inductive FirstFree (taken : List String) (base : String) : Candidate → Prop
  | plain (free : base ∉ taken) : FirstFree taken base ⟨base, 0⟩
  | counted {least : Nat} (isTaken : base ∈ taken)
      (isLeast : IsLeast {k | 1 ≤ k ∧ numbered base k ∉ taken} least) :
      FirstFree taken base ⟨numbered base least, least⟩

namespace FirstFree

variable {found : Candidate}

theorem search (h : FirstFree taken base found) :
    Search taken base (Candidate.first base) found := by
  cases h with
  | plain free => exact .stop free
  | counted isTaken isLeast => exact .next isTaken (search_of_isLeast isLeast)

theorem searchEnds (h : FirstFree taken base found) : SearchEnds taken base found := by
  intro other
  constructor
  · intro hOther
    exact hOther.unique h.search
  · rintro rfl
    exact h.search

/-- One of the numbers up to the count of the taken names is enough, so the least one is. -/
theorem count_le (h : FirstFree taken base found) : found.count ≤ taken.length := by
  cases h with
  | plain => exact Nat.zero_le _
  | @counted least isTaken isLeast =>
      obtain ⟨n, hn, hFree⟩ := exists_numbered_notMem isTaken
      have hLeast : least ≤ n + 1 := isLeast.2 ⟨by omega, hFree⟩
      show least ≤ taken.length
      omega

end FirstFree

theorem exists_firstFree_freshName (taken : List String) (base : String) :
    ∃ count, FirstFree taken base ⟨freshName taken base, count⟩ := by
  rcases freshName_cases taken base with ⟨hFree, hName⟩ | ⟨n, hName, hFree, hTaken, hBelow⟩
  · rw [hName]
    exact ⟨0, .plain hFree⟩
  · have hLower : n + 1 ∈ lowerBounds {k | 1 ≤ k ∧ numbered base k ∉ taken} := by
      rintro k ⟨hk, hNotMem⟩
      by_contra hLt
      have hMem := hBelow (k - 1) (by omega)
      rw [Nat.sub_add_cancel hk] at hMem
      exact hNotMem hMem
    rw [hName]
    exact ⟨n + 1, .counted hTaken ⟨⟨by omega, hFree⟩, hLower⟩⟩

/-- The search ends with the fresh name, having counted up at most once for every taken name. -/
theorem exists_searchEnds_freshName (taken : List String) (base : String) :
    ∃ count ≤ taken.length,
      SearchEnds taken base ⟨freshName taken base, count⟩ ∧
      FirstFree taken base ⟨freshName taken base, count⟩ := by
  obtain ⟨count, hFirst⟩ := exists_firstFree_freshName taken base
  exact ⟨count, hFirst.count_le, hFirst.searchEnds, hFirst⟩

end Statement

open Statement

/-! ## Aliases -/

namespace Scope

/-- The name that the search for an alias starts from: the name of the table, with that of the field
where a query around has it already. -/
def aliasBase (taken : List String) (table : TableName) (field : String) : String :=
  if table.rowAlias ∈ taken then table.rowAlias ++ "_" ++ bareWord field else table.rowAlias

theorem freshAlias_eq (taken : List String) (table : TableName) (field : String) :
    freshAlias taken table field = freshName taken (aliasBase taken table field) := by
  unfold freshAlias aliasBase
  split
  · rfl
  · next hFree => exact (freshName_eq_self hFree).symm

/-- An alias is the name of the table, or the first free name for the table and the field. -/
theorem freshAlias_firstFree {taken : List String} {table : TableName} {field : String}
    {count : Nat} (h : FirstFree taken (aliasBase taken table field)
      ⟨freshAlias taken table field, count⟩) :
    (table.rowAlias ∉ taken ∧ freshAlias taken table field = table.rowAlias) ∨
      (table.rowAlias ∈ taken ∧ FirstFree taken (table.rowAlias ++ "_" ++ bareWord field)
        ⟨freshAlias taken table field, count⟩) := by
  by_cases hTaken : table.rowAlias ∈ taken
  · rw [aliasBase, if_pos hTaken] at h
    exact .inr ⟨hTaken, h⟩
  · exact .inl ⟨hTaken, if_neg hTaken⟩

end Scope

/-- The search for the name of a parameter ends after at most as many steps as there are parameters.
The parameter gets the bare word that is proposed for it or, if that is a key, the bare word with
the least number that makes it none; it is added at the end, and the parameters before it stay what
they are. The search for the alias of a nested query ends after at most as many steps as there are
aliases around. The alias is the name of the table, or if that is taken the name of the table with
the word for the field, or if that is taken too the same with the least number that frees it. -/
theorem names_firstFree :
    (∀ (parameters : Parameters) (proposal : String) (value : Json),
      ∃ count ≤ parameters.length,
        SearchEnds parameters.keys (bareWord proposal)
          ⟨(bind parameters proposal value).1, count⟩ ∧
        FirstFree parameters.keys (bareWord proposal)
          ⟨(bind parameters proposal value).1, count⟩ ∧
        (bind parameters proposal value).2 =
          parameters ++ [((bind parameters proposal value).1, value)]) ∧
    ∀ (scope : Scope) (table : TableName) (field : String),
      (scope.nested table field).ancestors = scope.ancestors ++ [scope.rowAlias] ∧
      ∃ count ≤ (scope.nested table field).ancestors.length,
        SearchEnds (scope.nested table field).ancestors
          (Scope.aliasBase (scope.nested table field).ancestors table field)
          ⟨(scope.nested table field).rowAlias, count⟩ ∧
        ((table.rowAlias ∉ (scope.nested table field).ancestors ∧
            (scope.nested table field).rowAlias = table.rowAlias) ∨
          (table.rowAlias ∈ (scope.nested table field).ancestors ∧
            FirstFree (scope.nested table field).ancestors
              (table.rowAlias ++ "_" ++ bareWord field)
              ⟨(scope.nested table field).rowAlias, count⟩)) := by
  constructor
  · intro parameters proposal value
    obtain ⟨count, hCount, hSearch, hFirst⟩ :=
      exists_searchEnds_freshName parameters.keys (bareWord proposal)
    have hLength : parameters.keys.length = parameters.length := List.length_map _
    rw [hLength] at hCount
    exact ⟨count, hCount, hSearch, hFirst, bind_snd parameters proposal value⟩
  · intro scope table field
    have hAlias : (scope.nested table field).rowAlias =
        Scope.freshAlias (scope.nested table field).ancestors table field := rfl
    obtain ⟨count, hCount, hSearch, hFirst⟩ := exists_searchEnds_freshName
      (scope.nested table field).ancestors
      (Scope.aliasBase (scope.nested table field).ancestors table field)
    rw [← Scope.freshAlias_eq] at hSearch hFirst
    rw [hAlias]
    exact ⟨rfl, count, hCount, hSearch, Scope.freshAlias_firstFree hFirst⟩

/-- Keys that look like numbered ones, out of order and with a gap. -/
example :
    (bind [("tier_3", .null), ("tier_1", .null), ("tier", .null)] "tier" .null).1 = "tier_2" := rfl

end N1qlConnector
