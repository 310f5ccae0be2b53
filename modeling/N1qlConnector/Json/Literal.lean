import N1qlConnector.Json.Basic

/-!
# Number literals

A number is first taken apart into the digits before and after its point and of its exponent, then
given a value. The digits of both parts together make up the significand, as long as it fits 64
bits; where the next digit would not fit, the digits left over in that part only count as places.
What was written without point and exponent, and fits, stays an integer.

A minus before zero makes a floating point zero, since the integers have only one.
-/

namespace N1qlConnector

/-- The digits of a number as they are written. -/
structure NumberLiteral where
  negative : Bool
  whole : List Nat
  /-- The digits after the point, empty if there is no point. -/
  fraction : List Nat
  /-- Whether the exponent is negative, and its digits. -/
  exponent : Option (Bool × List Nat)
  deriving DecidableEq, Repr

namespace NumberLiteral

/-! ## Value -/

/-- Appends digits to a significand as long as it fits 64 bits. The second part of the answer is
what was left over. -/
def gather : Nat → List Nat → Nat × List Nat
  | significand, [] => (significand, [])
  | significand, digit :: digits =>
    if significand * 10 + digit < UInt64.size then gather (significand * 10 + digit) digits
    else (significand, digit :: digits)

/-- The number that digits spell. -/
def spelled (digits : List Nat) : Nat := digits.foldl (fun n digit => n * 10 + digit) 0

/-- The exponent, with its sign. -/
def exponentValue (literal : NumberLiteral) : Int :=
  match literal.exponent with
  | none => 0
  | some (true, digits) => -(spelled digits : Int)
  | some (false, digits) => spelled digits

/-- The value of a literal, `none` if it is too large for a floating point number. -/
def value? (literal : NumberLiteral) : Option Number :=
  let (whole, leftOver) := gather 0 literal.whole
  let integral := leftOver.isEmpty && literal.fraction.isEmpty && literal.exponent.isNone
  if integral && !literal.negative then
    some (.integer whole)
  else if integral && whole != 0 && decide (whole ≤ UInt64.size / 2) then
    some (.integer (-(whole : Int)))
  else
    let (significand, unused) := gather whole literal.fraction
    let places : Int := leftOver.length - (literal.fraction.length - unused.length : Nat)
    (Binary64.ofDecimal literal.negative significand (places + literal.exponentValue)).map .binary

/-! ## Scanning -/

/-- The digits that a text starts with, and what follows them. -/
def digits : List Char → List Nat × List Char
  | [] => ([], [])
  | c :: rest =>
    if c.isDigit then
      let (found, after) := digits rest
      ((c.toNat - '0'.toNat) :: found, after)
    else ([], c :: rest)

theorem length_digits_le (text : List Char) : (digits text).2.length ≤ text.length := by
  induction text with
  | nil => simp [digits]
  | cons c rest ih =>
    unfold digits
    split
    · simpa using Nat.le_succ_of_le ih
    · simp

/-- The digits before the point: a lone zero, or digits that start with another one. -/
def scanWhole (text : List Char) : Option (List Nat × List Char) :=
  match digits text with
  | ([], _) => none
  | (0 :: _ :: _, _) => none
  | found => some found

/-- The digits after a point; without a point there are none. -/
def scanFraction : List Char → Option (List Nat × List Char)
  | '.' :: rest =>
    match digits rest with
    | ([], _) => none
    | found => some found
  | text => some ([], text)

/-- Whether a text starts with a minus sign, and what follows its sign. -/
def afterSign : List Char → Bool × List Char
  | '+' :: rest => (false, rest)
  | '-' :: rest => (true, rest)
  | rest => (false, rest)

/-- The sign and the digits after the mark of an exponent. -/
def scanExponent : List Char → Option (Option (Bool × List Nat) × List Char)
  | mark :: rest =>
    if mark = 'e' ∨ mark = 'E' then
      match digits (afterSign rest).2 with
      | ([], _) => none
      | (found, after) => some (some ((afterSign rest).1, found), after)
    else some (none, mark :: rest)
  | [] => some (none, [])

/-- Whether a text starts with a minus sign, and what follows it. -/
def afterMinus : List Char → Bool × List Char
  | '-' :: rest => (true, rest)
  | rest => (false, rest)

/-- The literal that a text starts with, and what follows it. -/
def scan (text : List Char) : Option (NumberLiteral × List Char) := do
  let (whole, rest) ← scanWhole (afterMinus text).2
  let (fraction, rest) ← scanFraction rest
  let (exponent, rest) ← scanExponent rest
  return (⟨(afterMinus text).1, whole, fraction, exponent⟩, rest)

/-- Where there is a digit, something is taken. -/
theorem length_digits_lt {text : List Char} (found : (digits text).1 ≠ []) :
    (digits text).2.length < text.length := by
  cases text with
  | nil => exact absurd rfl found
  | cons c rest =>
    unfold digits at found ⊢
    by_cases isDigit : c.isDigit
    · rw [if_pos isDigit]
      exact Nat.lt_succ_of_le (length_digits_le rest)
    · rw [if_neg isDigit] at found
      exact absurd rfl found

theorem length_scanWhole_lt {text rest : List Char} {found : List Nat}
    (h : scanWhole text = some (found, rest)) : rest.length < text.length := by
  have shorter := @length_digits_lt text
  unfold scanWhole at h
  generalize digits text = taken at h shorter
  obtain ⟨_ | ⟨first, more⟩, after⟩ := taken
  · exact absurd h (by simp)
  · have same : after = rest := by
      split at h
      · exact absurd h (by simp)
      · exact absurd h (by simp)
      · exact congrArg Prod.snd (Option.some.inj h)
    exact same ▸ shorter (List.cons_ne_nil first more)

theorem length_scanFraction_le {text rest : List Char} {found : List Nat}
    (h : scanFraction text = some (found, rest)) : rest.length ≤ text.length := by
  unfold scanFraction at h
  split at h
  · rename_i after
    have shorter := length_digits_le after
    generalize digits after = taken at h shorter
    have same : taken.2 = rest := by
      split at h
      · exact absurd h (by simp)
      · exact congrArg Prod.snd (Option.some.inj h)
    exact same ▸ Nat.le_succ_of_le shorter
  · have same : _ = rest := congrArg Prod.snd (Option.some.inj h)
    exact same ▸ Nat.le_refl _

/-- A sign is at most one character. -/
theorem length_afterSign_le (text : List Char) : (afterSign text).2.length ≤ text.length := by
  unfold afterSign
  split
  · exact Nat.le_succ _
  · exact Nat.le_succ _
  · exact Nat.le_refl _

theorem length_scanExponent_le {text rest : List Char} {found : Option (Bool × List Nat)}
    (h : scanExponent text = some (found, rest)) : rest.length ≤ text.length := by
  unfold scanExponent at h
  split at h
  · rename_i mark text
    split at h
    · have shorter := length_digits_le (afterSign text).2
      generalize digits (afterSign text).2 = taken at h shorter
      have same : taken.2 = rest := by
        split at h
        · exact absurd h (by simp)
        · exact congrArg Prod.snd (Option.some.inj h)
      exact same ▸ Nat.le_succ_of_le (Nat.le_trans shorter (length_afterSign_le text))
    · have same : _ = rest := congrArg Prod.snd (Option.some.inj h)
      exact same ▸ Nat.le_refl _
  · have same : _ = rest := congrArg Prod.snd (Option.some.inj h)
    exact same ▸ Nat.le_refl _

theorem length_afterMinus_le (text : List Char) : (afterMinus text).2.length ≤ text.length := by
  unfold afterMinus
  split
  · exact Nat.le_succ _
  · exact Nat.le_refl _

/-- A scan takes at least one character. -/
theorem length_scan_lt {text rest : List Char} {literal : NumberLiteral}
    (h : scan text = some (literal, rest)) : rest.length < text.length := by
  simp only [scan, Option.bind_eq_bind, Option.pure_def] at h
  simp only [Option.bind_eq_some_iff] at h
  obtain ⟨⟨whole, t₁⟩, hw, ⟨fraction, t₂⟩, hf, ⟨exponent, t₃⟩, he, hr⟩ := h
  have h₁ : t₁.length < (afterMinus text).2.length := length_scanWhole_lt hw
  have h₂ : t₂.length ≤ t₁.length := length_scanFraction_le hf
  have h₃ : t₃.length ≤ t₂.length := length_scanExponent_le he
  obtain rfl : t₃ = rest := congrArg Prod.snd (Option.some.inj hr)
  have h₀ := length_afterMinus_le text
  omega

end NumberLiteral

end N1qlConnector
