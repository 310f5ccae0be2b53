import N1qlConnector.Json.Printer
import N1qlConnector.Json.Token

/-!
# Numbers that were printed

A number has no closing mark, so its text is only followed to its end if what comes after it is
nothing that a number goes on with. In a text that was printed a number is followed by a comma, by a
bracket or by nothing.

An integer is read as itself, since its digits are gathered to what they spell and it fits 64 bits.
Of a floating point number this cannot be said: it is written with the fewest digits that are next
to it, and digits are read with a rounding of their own, so that now and then a neighbour comes back.
`Number.Rereads` says of a number that it does not happen to it.

## Main results

* `NumberLiteral.scan_append` : a literal is followed to its end.
* `Number.rereads_integer` : integers are read as themselves.
-/

namespace N1qlConnector

/-! ## Literals in a longer text -/

namespace NumberLiteral

/-- No number goes on with this text. -/
def Stops (rest : List Char) : Prop :=
  ∀ c ∈ rest.head?, c.isDigit = false ∧ c ≠ '.' ∧ c ≠ 'e' ∧ c ≠ 'E'

theorem stops_nil : Stops [] := nofun

theorem stops_comma (rest : List Char) : Stops (',' :: rest) := by
  rintro c ⟨⟩
  decide

theorem stops_closeArray (rest : List Char) : Stops (']' :: rest) := by
  rintro c ⟨⟩
  decide

theorem stops_closeObject (rest : List Char) : Stops ('\x7d' :: rest) := by
  rintro c ⟨⟩
  decide

section Append

variable {text after rest : List Char}

theorem digits_of_stops (hRest : Stops rest) : digits rest = ([], rest) := by
  cases rest with
  | nil => rfl
  | cons c others =>
      obtain ⟨hDigit, -⟩ := hRest c rfl
      rw [digits, if_neg (by rw [hDigit]; exact Bool.false_ne_true)]

theorem digits_append (text : List Char) (hRest : Stops rest) :
    digits (text ++ rest) = ((digits text).1, (digits text).2 ++ rest) := by
  induction text with
  | nil => exact digits_of_stops hRest
  | cons c others ih =>
      rw [List.cons_append, digits, digits]
      split
      · rw [ih]
      · rfl

theorem scanWhole_append {found : List Nat} (hRest : Stops rest)
    (h : scanWhole text = some (found, after)) :
    scanWhole (text ++ rest) = some (found, after ++ rest) := by
  unfold scanWhole at h ⊢
  rw [digits_append text hRest]
  generalize digits text = taken at h ⊢
  obtain ⟨_ | ⟨first, others⟩, unread⟩ := taken
  · cases h
  · -- Whether a first zero is refused depends on whether it is the only digit.
    cases first <;> cases others <;> cases h <;> rfl

theorem scanFraction_cons_of_ne {c : Char} (h : c ≠ '.') (others : List Char) :
    scanFraction (c :: others) = some ([], c :: others) := by
  unfold scanFraction
  split
  · rename_i hText
    exact absurd (List.cons.inj hText).1 h
  · rfl

theorem scanFraction_of_stops (hRest : Stops rest) : scanFraction rest = some ([], rest) := by
  cases rest with
  | nil => rfl
  | cons c others => exact scanFraction_cons_of_ne (hRest c rfl).2.1 others

theorem scanFraction_append {found : List Nat} (hRest : Stops rest)
    (h : scanFraction text = some (found, after)) :
    scanFraction (text ++ rest) = some (found, after ++ rest) := by
  cases text with
  | nil =>
      obtain ⟨rfl, rfl⟩ := Prod.mk.inj (Option.some.inj h)
      exact scanFraction_of_stops hRest
  | cons c others =>
      by_cases hPoint : c = '.'
      · subst hPoint
        rw [List.cons_append]
        unfold scanFraction at h ⊢
        simp only [digits_append others hRest] at h ⊢
        generalize digits others = taken at h ⊢
        obtain ⟨_ | ⟨first, more⟩, unread⟩ := taken
        · cases h
        · obtain ⟨rfl, rfl⟩ := Prod.mk.inj (Option.some.inj h)
          rfl
      · rw [scanFraction_cons_of_ne hPoint] at h
        obtain ⟨rfl, rfl⟩ := Prod.mk.inj (Option.some.inj h)
        exact scanFraction_cons_of_ne hPoint _

theorem afterSign_cons_of_ne {c : Char} (hPlus : c ≠ '+') (hMinus : c ≠ '-')
    (others : List Char) : afterSign (c :: others) = (false, c :: others) := by
  unfold afterSign
  split
  · rename_i hText
    exact absurd (List.cons.inj hText).1 hPlus
  · rename_i hText
    exact absurd (List.cons.inj hText).1 hMinus
  · rfl

theorem afterSign_append (rest : List Char) (h : text ≠ []) :
    afterSign (text ++ rest) = ((afterSign text).1, (afterSign text).2 ++ rest) := by
  obtain ⟨c, others, rfl⟩ := List.exists_cons_of_ne_nil h
  by_cases hPlus : c = '+'
  · subst hPlus
    rfl
  by_cases hMinus : c = '-'
  · subst hMinus
    rfl
  rw [List.cons_append, afterSign_cons_of_ne hPlus hMinus, afterSign_cons_of_ne hPlus hMinus,
    List.cons_append]

theorem scanExponent_of_stops (hRest : Stops rest) : scanExponent rest = some (none, rest) := by
  cases rest with
  | nil => rfl
  | cons c others => exact if_neg (not_or.2 (hRest c rfl).2.2)

theorem scanExponent_append {found : Option (Bool × List Nat)} (hRest : Stops rest)
    (h : scanExponent text = some (found, after)) :
    scanExponent (text ++ rest) = some (found, after ++ rest) := by
  cases text with
  | nil =>
      obtain ⟨rfl, rfl⟩ := Prod.mk.inj (Option.some.inj h)
      exact scanExponent_of_stops hRest
  | cons mark others =>
      rw [List.cons_append]
      unfold scanExponent at h ⊢
      by_cases hMark : mark = 'e' ∨ mark = 'E'
      · simp only [if_pos hMark] at h ⊢
        -- After the mark there is a digit, so the sign is seen whatever follows.
        have hOthers : others ≠ [] := by
          rintro rfl
          cases h
        rw [afterSign_append rest hOthers, digits_append _ hRest]
        generalize digits (afterSign others).2 = taken at h ⊢
        obtain ⟨_ | ⟨first, more⟩, unread⟩ := taken
        · cases h
        · obtain ⟨rfl, rfl⟩ := Prod.mk.inj (Option.some.inj h)
          rfl
      · simp only [if_neg hMark] at h ⊢
        obtain ⟨rfl, rfl⟩ := Prod.mk.inj (Option.some.inj h)
        rfl

theorem afterMinus_cons_of_ne {c : Char} (h : c ≠ '-') (others : List Char) :
    afterMinus (c :: others) = (false, c :: others) := by
  unfold afterMinus
  split
  · rename_i hText
    exact absurd (List.cons.inj hText).1 h
  · rfl

theorem afterMinus_append (rest : List Char) (h : text ≠ []) :
    afterMinus (text ++ rest) = ((afterMinus text).1, (afterMinus text).2 ++ rest) := by
  obtain ⟨c, others, rfl⟩ := List.exists_cons_of_ne_nil h
  by_cases hMinus : c = '-'
  · subst hMinus
    rfl
  rw [List.cons_append, afterMinus_cons_of_ne hMinus, afterMinus_cons_of_ne hMinus,
    List.cons_append]

/-- A literal is found in a longer text as well, and what follows it is what followed before. -/
theorem scan_append {literal : NumberLiteral} (hRest : Stops rest)
    (h : scan text = some (literal, after)) :
    scan (text ++ rest) = some (literal, after ++ rest) := by
  have hNe : text ≠ [] := by
    rintro rfl
    cases h
  simp only [scan, Option.bind_eq_bind, Option.pure_def, Option.bind_eq_some_iff] at h ⊢
  obtain ⟨⟨whole, first⟩, hWhole, ⟨fraction, second⟩, hFraction, ⟨exponent, third⟩, hExponent,
    hLiteral⟩ := h
  obtain ⟨rfl, rfl⟩ := Prod.mk.inj (Option.some.inj hLiteral)
  rw [afterMinus_append rest hNe]
  exact ⟨_, scanWhole_append hRest hWhole, _, scanFraction_append hRest hFraction, _,
    scanExponent_append hRest hExponent, rfl⟩

/-- A literal starts with a digit or a minus sign. -/
theorem of_scan_cons {c : Char} {others : List Char} {literal : NumberLiteral}
    (h : scan (c :: others) = some (literal, after)) : c.isDigit = true ∨ c = '-' := by
  refine Decidable.byContradiction fun hNot => ?_
  obtain ⟨hDigit, hMinus⟩ := not_or.1 hNot
  have hWhole : scanWhole (c :: others) = none := by
    unfold scanWhole digits
    rw [if_neg hDigit]
  rw [scan, afterMinus_cons_of_ne hMinus, hWhole] at h
  cases h

end Append

end NumberLiteral

/-! ## Tokens -/

namespace Token

/-- A text that starts with a literal starts with the token of it. -/
theorem scan_of_literal {text after : List Char} {literal : NumberLiteral}
    (h : NumberLiteral.scan text = some (literal, after)) :
    scan text = (.number literal.value?, after) := by
  cases text with
  | nil => cases h
  | cons c others =>
      have hFirst := NumberLiteral.of_scan_cons h
      unfold scan
      split
      case h_11 => rw [h]
      all_goals
        rename_i hText
        obtain ⟨rfl, -⟩ := List.cons.inj hText
        exact absurd hFirst (by decide)

theorem isBlank_of_literal {c : Char} (h : c.isDigit = true ∨ c = '-') : isBlank c = false := by
  rw [Bool.eq_false_iff]
  intro hBlank
  simp only [isBlank, Bool.or_eq_true, beq_iff_eq] at hBlank
  rcases hBlank with ((rfl | rfl) | rfl) | rfl <;> exact absurd h (by decide)

end Token

/-! ## Numbers -/

namespace Number

/-- The text of the number is the text of a literal that stands for it. -/
def Rereads (number : Number) : Prop :=
  ∃ literal, NumberLiteral.scan number.text.toList = some (literal, []) ∧
    literal.value? = some number

end Number

theorem Token.all_number {number : Number} (h : number.Rereads) {rest : List Char}
    (hRest : NumberLiteral.Stops rest) :
    all (number.text.toList ++ rest) = .number (some number) :: all rest := by
  obtain ⟨literal, hScan, hValue⟩ := h
  have hLiteral := NumberLiteral.scan_append hRest hScan
  rw [List.nil_append] at hLiteral
  cases hText : number.text.toList ++ rest with
  | nil =>
      rw [hText] at hLiteral
      cases hLiteral
  | cons c others =>
      rw [hText] at hLiteral
      have hFirst := NumberLiteral.of_scan_cons hLiteral
      rw [all, if_neg (by rw [isBlank_of_literal hFirst]; exact Bool.false_ne_true),
        scan_of_literal hLiteral, hValue]

/-! ## Integers -/

namespace NumberLiteral

/-- The digits of a natural number, the first one first. -/
def digitsOf (n : Nat) : List Nat := (Nat.toDigits 10 n).map fun c => c.toNat - '0'.toNat

theorem digitsOf_of_lt {n : Nat} (h : n < 10) : digitsOf n = [n] := by
  rw [digitsOf, Nat.toDigits_of_lt_base h, List.map_singleton, Nat.toNat_digitChar_of_lt_ten h]
  exact congrArg (fun digit => [digit]) (Nat.add_sub_cancel_left 48 n)

/-- The last digit comes after those of the number without it. -/
theorem digitsOf_of_le {n : Nat} (h : 10 ≤ n) : digitsOf n = digitsOf (n / 10) ++ [n % 10] := by
  have hMod : n % 10 < 10 := Nat.mod_lt n (by decide)
  rw [← digitsOf_of_lt hMod, digitsOf, Nat.toDigits_of_base_le (by decide) h, List.map_append,
    digitsOf, digitsOf, Nat.toDigits_of_lt_base hMod]

/-- Only zero starts with a zero. -/
theorem exists_digitsOf_eq_cons {n : Nat} (h : 0 < n) :
    ∃ first others, digitsOf n = first :: others ∧ first ≠ 0 := by
  induction n using Nat.strongRecOn with
  | ind n ih =>
      rcases Nat.lt_or_ge n 10 with hSmall | hLarge
      · exact ⟨n, [], digitsOf_of_lt hSmall, Nat.ne_of_gt h⟩
      · -- The first digit is the one of the number without its last digit.
        obtain ⟨first, others, hDigits, hFirst⟩ := ih (n / 10) (by omega) (by omega)
        exact ⟨first, others ++ [n % 10], by rw [digitsOf_of_le hLarge, hDigits]; rfl, hFirst⟩

theorem gather_append {significand gathered : Nat} {first : List Nat} (second : List Nat)
    (h : gather significand first = (gathered, [])) :
    gather significand (first ++ second) = gather gathered second := by
  induction first generalizing significand with
  | nil =>
      obtain ⟨rfl, -⟩ := Prod.mk.inj h
      rfl
  | cons digit others ih =>
      rw [gather] at h
      rw [List.cons_append, gather]
      split at h
      · rename_i hFits
        rw [if_pos hFits]
        exact ih h
      · cases (Prod.mk.inj h).2

/-- The digits of a number that fits are gathered to it. -/
theorem gather_digitsOf {n : Nat} (h : n < UInt64.size) : gather 0 (digitsOf n) = (n, []) := by
  induction n using Nat.strongRecOn with
  | ind n ih =>
      rcases Nat.lt_or_ge n 10 with hSmall | hLarge
      · rw [digitsOf_of_lt hSmall, gather, Nat.zero_mul, Nat.zero_add, if_pos h, gather]
      · -- What was gathered up to the last digit fits since the whole does.
        have hFirst := ih (n / 10) (by omega) (by omega)
        have hSum : n / 10 * 10 + n % 10 = n := by omega
        rw [digitsOf_of_le hLarge, gather_append _ hFirst, gather, hSum, if_pos h, gather]

theorem digits_of_forall {text : List Char} (h : ∀ c ∈ text, c.isDigit = true) :
    digits text = (text.map fun c => c.toNat - '0'.toNat, []) := by
  induction text with
  | nil => rfl
  | cons c others ih =>
      rw [digits, if_pos (h c List.mem_cons_self), ih fun d hd => h d (List.mem_cons_of_mem c hd)]
      rfl

theorem scanWhole_toDigits (n : Nat) :
    scanWhole (Nat.toDigits 10 n) = some (digitsOf n, []) := by
  have hDigits : digits (Nat.toDigits 10 n) = (digitsOf n, []) :=
    digits_of_forall fun c hc => Nat.isDigit_of_mem_toDigits (by decide) (by decide) hc
  rw [scanWhole, hDigits]
  rcases Nat.eq_zero_or_pos n with rfl | hPos
  · rfl
  · obtain ⟨first, others, hCons, hFirst⟩ := exists_digitsOf_eq_cons hPos
    rw [hCons]
    cases first with
    | zero => exact absurd rfl hFirst
    | succ first => rfl

/-- The literal of an integer. -/
def ofDigits (negative : Bool) (n : Nat) : NumberLiteral := ⟨negative, digitsOf n, [], none⟩

theorem scan_toDigits (n : Nat) : scan (Nat.toDigits 10 n) = some (ofDigits false n, []) := by
  have hAfter : afterMinus (Nat.toDigits 10 n) = (false, Nat.toDigits 10 n) := by
    cases hText : Nat.toDigits 10 n with
    | nil => rfl
    | cons c others =>
        have hDigit : c.isDigit = true := Nat.isDigit_of_mem_toDigits (b := 10) (n := n)
          (by decide) (by decide) (hText ▸ List.mem_cons_self)
        refine afterMinus_cons_of_ne ?_ others
        rintro rfl
        exact absurd hDigit (by decide)
  rw [scan, hAfter, scanWhole_toDigits]
  rfl

theorem scan_minus_toDigits (n : Nat) :
    scan ('-' :: Nat.toDigits 10 n) = some (ofDigits true n, []) := by
  rw [scan, afterMinus, scanWhole_toDigits]
  rfl

theorem value?_ofDigits_false {n : Nat} (h : n < UInt64.size) :
    (ofDigits false n).value? = some (.integer n) := by
  rw [value?, ofDigits, gather_digitsOf h]
  rfl

theorem value?_ofDigits_true {n : Nat} (hPos : 0 < n) (h : n ≤ UInt64.size / 2) :
    (ofDigits true n).value? = some (.integer (-(n : Int))) := by
  have hFits : n < UInt64.size := Nat.lt_of_le_of_lt h (by decide)
  have hNe : n ≠ 0 := Nat.ne_of_gt hPos
  rw [value?, ofDigits, gather_digitsOf hFits]
  simp [hNe, h]

end NumberLiteral

/-- An integer that fits 64 bits, with a sign or without, is read as itself. -/
theorem Number.rereads_integer {value : Int} (hLow : -(UInt64.size / 2 : Nat) ≤ value)
    (hHigh : value < UInt64.size) : (integer value).Rereads := by
  cases value with
  | ofNat n =>
      have hText : (integer (.ofNat n)).text.toList = Nat.toDigits 10 n := Nat.toList_repr
      refine ⟨_, ?_, NumberLiteral.value?_ofDigits_false (Int.ofNat_lt.1 hHigh)⟩
      rw [hText]
      exact NumberLiteral.scan_toDigits n
  | negSucc n =>
      have hText : (integer (.negSucc n)).text.toList = '-' :: Nat.toDigits 10 (n + 1) := by
        show ("-" ++ Nat.repr (n + 1)).toList = _
        rw [String.toList_append, Nat.toList_repr]
        rfl
      refine ⟨_, ?_, NumberLiteral.value?_ofDigits_true n.succ_pos (by omega)⟩
      rw [hText]
      exact NumberLiteral.scan_minus_toDigits (n + 1)

end N1qlConnector
