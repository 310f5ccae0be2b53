import Mathlib.Data.List.Forall2
import N1qlConnector.Store.Error

/-!
# Which errors are failures of an index

Whether a message speaks of an index is decided by cutting it into words and folding them. The usual
way to say it is another one: somewhere in the message stand the letters of the word, each in either
case, and a boundary of words lies before the first and after the last of them. The two are the same
because a boundary beside a character of a word means that there is none on its other side.

## Main results

* `Text.mem_words` : the words of a text, as the stretches of it that start after anything that is
  no part of a word.
* `StoreError.isIndexFailure_iff` : when an error is the failure of an index, in terms of boundaries.
-/

namespace N1qlConnector

namespace Text

/-! ## Words -/

/-- A boundary of words lies between two parts of a text: exactly one of the characters beside it is
part of a word. -/
def IsBoundary (before after : List Char) : Prop :=
  before.getLast?.any isWord ≠ after.head?.any isWord

theorem splitWords_fst (text : List Char) : (splitWords text).1 = text.takeWhile isWord := by
  induction text with
  | nil => rfl
  | cons c rest ih =>
      cases hWord : isWord c with
      | true => simp [splitWords, hWord, ih]
      | false => simp [splitWords, hWord]

/-- The words after the first one start behind a character that is no part of any. -/
theorem mem_splitWords_snd {text word : List Char} :
    word ∈ (splitWords text).2 ↔
      ∃ before c rest, text = before ++ c :: rest ∧ isWord c = false ∧
        word = rest.takeWhile isWord := by
  induction text with
  | nil => simp [splitWords]
  | cons d text ih =>
      have hCons : word ∈ (splitWords (d :: text)).2 ↔
          isWord d = false ∧ word = text.takeWhile isWord ∨ word ∈ (splitWords text).2 := by
        cases hWord : isWord d with
        | true => simp [splitWords, hWord]
        | false => simp [splitWords, hWord, splitWords_fst]
      rw [hCons, ih]
      constructor
      · rintro (⟨hWord, hEq⟩ | ⟨before, c, rest, rfl, hWord, hEq⟩)
        · exact ⟨[], d, text, rfl, hWord, hEq⟩
        · exact ⟨d :: before, c, rest, rfl, hWord, hEq⟩
      · rintro ⟨before, c, rest, hText, hWord, hEq⟩
        cases before with
        | nil =>
            obtain ⟨rfl, rfl⟩ := List.cons.inj hText
            exact .inl ⟨hWord, hEq⟩
        | cons first before =>
            obtain ⟨rfl, rfl⟩ := List.cons.inj hText
            exact .inr ⟨before, c, rest, rfl, hWord, hEq⟩

theorem mem_words {text word : List Char} :
    word ∈ words text ↔
      ∃ before rest, text = before ++ rest ∧ before.getLast?.any isWord = false ∧
        word = rest.takeWhile isWord := by
  have hWords : words text = text.takeWhile isWord :: (splitWords text).2 := by
    rw [← splitWords_fst]
    rfl
  rw [hWords, List.mem_cons, mem_splitWords_snd]
  constructor
  · rintro (hEq | ⟨before, c, rest, rfl, hWord, hEq⟩)
    · exact ⟨[], text, rfl, rfl, hEq⟩
    · exact ⟨before ++ [c], rest, by simp, by simpa using hWord, hEq⟩
  · rintro ⟨before, rest, rfl, hLast, hEq⟩
    rcases List.eq_nil_or_concat before with rfl | ⟨front, c, rfl⟩
    · exact .inl hEq
    · refine .inr ⟨front, c, rest, by simp, ?_, hEq⟩
      simpa using hLast

theorem takeWhile_eq_iff {found rest : List Char} (hWord : ∀ c ∈ found, isWord c = true) :
    found = rest.takeWhile isWord ↔
      ∃ after, rest = found ++ after ∧ after.head?.any isWord = false := by
  constructor
  · intro hEq
    refine ⟨rest.dropWhile isWord, ?_, ?_⟩
    · rw [hEq, List.takeWhile_append_dropWhile]
    · have hHead := List.head?_dropWhile_not isWord rest
      cases hAfter : (rest.dropWhile isWord).head? with
      | none => rfl
      | some c =>
          rw [hAfter] at hHead
          simpa using hHead
  · rintro ⟨after, rfl, hHead⟩
    rw [List.takeWhile_append_of_pos hWord]
    cases after with
    | nil => simp
    | cons c after =>
        have hNot : isWord c = false := hHead
        simp [hNot]

/-- A stretch of word characters is a word if boundaries lie on both of its sides. -/
theorem mem_words_of_forall {text found : List Char} (hNe : found ≠ [])
    (hWord : ∀ c ∈ found, isWord c = true) :
    found ∈ words text ↔
      ∃ before after, text = before ++ found ++ after ∧ IsBoundary before (found ++ after) ∧
        IsBoundary (before ++ found) after := by
  have hFirst (after : List Char) : (found ++ after).head?.any isWord = true := by
    cases found with
    | nil => exact absurd rfl hNe
    | cons c found => exact hWord c List.mem_cons_self
  have hLast (before : List Char) : (before ++ found).getLast?.any isWord = true := by
    rw [List.getLast?_append_of_ne_nil _ hNe, List.getLast?_eq_some_getLast hNe]
    exact hWord _ (List.getLast_mem hNe)
  simp only [mem_words, takeWhile_eq_iff hWord, IsBoundary, hFirst, hLast, ne_eq,
    @eq_comm Bool true, Bool.not_eq_true]
  constructor
  · rintro ⟨before, _, rfl, hBefore, after, rfl, hAfter⟩
    exact ⟨before, after, (List.append_assoc _ _ _).symm, hBefore, hAfter⟩
  · rintro ⟨before, after, rfl, hBefore, hAfter⟩
    exact ⟨before, found ++ after, List.append_assoc _ _ _, hBefore, after, rfl, hAfter⟩

/-! ## Cases of letters -/

/-- A character is a small letter or the same letter in another case. An s has three cases, the
third one being the long s. -/
def IsCaseOf (letter c : Char) : Prop :=
  c = letter ∨ c = letter.toUpper ∨ letter = 's' ∧ c = '\u017f'

theorem toNat_toLower (c : Char) :
    c.toLower.toNat = if 65 ≤ c.toNat ∧ c.toNat ≤ 90 then c.toNat + 32 else c.toNat := by
  have hRange : (c.val ≥ 'A'.val ∧ c.val ≤ 'Z'.val) = (65 ≤ c.toNat ∧ c.toNat ≤ 90) := rfl
  have hSum : (c.val + 32).toNat = (c.toNat + 32) % 2 ^ 32 := UInt32.toNat_add c.val 32
  unfold Char.toLower
  by_cases h : 65 ≤ c.toNat ∧ c.toNat ≤ 90
  · rw [dif_pos (hRange ▸ h), if_pos h]
    show (c.val + 32).toNat = _
    omega
  · rw [dif_neg (hRange ▸ h), if_neg h]

theorem toNat_toUpper {c : Char} (h : 97 ≤ c.toNat ∧ c.toNat ≤ 122) :
    c.toUpper.toNat = c.toNat - 32 := by
  have hRange : ('a'.val ≤ c.val ∧ c.val ≤ 'z'.val) = (97 ≤ c.toNat ∧ c.toNat ≤ 122) := rfl
  have hSum : (c.val + ('A'.val - 'a'.val)).toNat = (c.toNat + 4294967264) % 2 ^ 32 :=
    UInt32.toNat_add c.val _
  unfold Char.toUpper
  rw [dif_pos (hRange ▸ h)]
  show (c.val + ('A'.val - 'a'.val)).toNat = _
  omega

theorem foldCase_eq_iff {letter : Char} (h : 97 ≤ letter.toNat ∧ letter.toNat ≤ 122) (c : Char) :
    foldCase c = letter ↔ IsCaseOf letter c := by
  have hUpper := toNat_toUpper h
  unfold foldCase IsCaseOf
  by_cases hLong : c = '\u017f'
  · -- The long s is no letter from `a` to `z`, and neither is it the capital form of one.
    subst hLong
    have hNe (other : Char) (hOther : other.toNat ≤ 122) : '\u017f' ≠ other := by
      rintro rfl
      exact absurd hOther (by decide)
    have hSelf := hNe letter h.2
    have hCapital := hNe letter.toUpper (by omega)
    simp [hSelf, hCapital, eq_comm]
  · have hLower := toNat_toLower c
    simp only [hLong, if_false, and_false, or_false, ← Char.toNat_inj]
    split at hLower <;> omega

/-- A stretch of a text reads as a word, in whatever case, with boundaries on both sides. -/
def HasWord (text word : List Char) : Prop :=
  ∃ before found after, text = before ++ found ++ after ∧ List.Forall₂ IsCaseOf word found ∧
    IsBoundary before (found ++ after) ∧ IsBoundary (before ++ found) after

/-- The small letters from `a` to `z` and their other cases are parts of words. -/
theorem isWord_of_isCaseOf {letter c : Char} (h : 97 ≤ letter.toNat ∧ letter.toNat ≤ 122)
    (hCase : IsCaseOf letter c) : isWord c = true := by
  have hUpper := toNat_toUpper h
  have hRange {first last : Nat} (hMem : (first, last) ∈ wordRanges.toList)
      (hFirst : first ≤ c.toNat) (hLast : c.toNat ≤ last) : isWord c = true :=
    List.any_eq_true.2 ⟨_, hMem, by simp [hFirst, hLast]⟩
  rcases hCase with rfl | rfl | ⟨-, rfl⟩
  · exact @hRange 0x61 0x7A (by decide) h.1 h.2
  · exact @hRange 0x41 0x5A (by decide) (by omega) (by omega)
  · decide

theorem map_foldCase_eq_iff {letters word : List Char}
    (h : ∀ letter ∈ letters, 97 ≤ letter.toNat ∧ letter.toNat ≤ 122) :
    word.map foldCase = letters ↔ List.Forall₂ IsCaseOf letters word := by
  induction letters generalizing word with
  | nil => simp
  | cons letter letters ih =>
      have hRest := fun other hMem => h other (List.mem_cons_of_mem letter hMem)
      cases word with
      | nil => simp
      | cons c word =>
          rw [List.map_cons, List.cons.injEq, List.forall₂_cons, ih hRest,
            foldCase_eq_iff (h letter List.mem_cons_self)]

/-- A text has a word if one of its words folds to it. -/
theorem hasWord_iff {text letters : List Char} (hNe : letters ≠ [])
    (h : ∀ letter ∈ letters, 97 ≤ letter.toNat ∧ letter.toNat ≤ 122) :
    HasWord text letters ↔ ∃ word ∈ words text, word.map foldCase = letters := by
  have hWord {found : List Char} (hFolded : found.map foldCase = letters) :
      found ≠ [] ∧ ∀ c ∈ found, isWord c = true := by
    subst hFolded
    refine ⟨by rintro rfl; exact hNe rfl, fun c hMem => ?_⟩
    have hLetter := h (foldCase c) (List.mem_map_of_mem hMem)
    exact isWord_of_isCaseOf hLetter ((foldCase_eq_iff hLetter c).1 rfl)
  constructor
  · rintro ⟨before, found, after, hText, hFound, hBoundaries⟩
    have hFolded := (map_foldCase_eq_iff h).2 hFound
    obtain ⟨hNeFound, hAll⟩ := hWord hFolded
    exact ⟨found, (mem_words_of_forall hNeFound hAll).2 ⟨before, after, hText, hBoundaries⟩,
      hFolded⟩
  · rintro ⟨found, hMem, hFolded⟩
    obtain ⟨hNeFound, hAll⟩ := hWord hFolded
    obtain ⟨before, after, hText, hBoundaries⟩ := (mem_words_of_forall hNeFound hAll).1 hMem
    exact ⟨before, found, after, hText, (map_foldCase_eq_iff h).1 hFolded, hBoundaries⟩

end Text

namespace StoreError

/-- What it is for an error to be the failure of an index. -/
def MeansIndex (error : StoreError) : Prop :=
  ∃ code, error.code = some code ∧
    (code = 12004 ∨ code = 12016 ∨
      4000 ≤ code ∧ code ≤ 5999 ∧
        (Text.HasWord error.message.toList "index".toList ∨
          Text.HasWord error.message.toList "indexes".toList))

theorem mentionsIndex_iff (message : String) :
    mentionsIndex message = true ↔
      Text.HasWord message.toList "index".toList ∨ Text.HasWord message.toList "indexes".toList := by
  rw [Text.hasWord_iff (by simp) (by simp), Text.hasWord_iff (by simp) (by simp), ← exists_or]
  simp [mentionsIndex, and_or_left]

theorem isIndexFailure_iff (error : StoreError) :
    error.isIndexFailure = true ↔ error.MeansIndex := by
  unfold isIndexFailure MeansIndex
  cases error.code with
  | none => simp
  | some code =>
      have hUpper : code < 6000 ↔ code ≤ 5999 := by
        rw [UInt64.lt_iff_toNat_lt, UInt64.le_iff_toNat_le]
        exact Nat.lt_succ_iff
      simp [indexFailureCodes, mentionsIndex_iff, hUpper, or_assoc, and_assoc]

end StoreError

end N1qlConnector
