import N1qlConnector.Text.Lowercase
import N1qlConnector.Text.Split

/-!
# Names of hosts

The name of a host is looked up in lower case and in ASCII. Forms of full width count as the plain
characters, marks that show nothing are left out, and a label with other letters is replaced by an
ASCII label that starts with `xn--`.

The letters beyond ASCII come last in that label. Going through their code points in ascending
order, each occurrence is told by how many steps lie between it and the one before, where a step
goes to the next place in the label or, at its end, to the next code point. The numbers of steps are
written with the digits `a` to `z` and `0` to `9`, the lowest first. A digit below a threshold ends
its number, and the thresholds adapt to the numbers that were written before.
-/

namespace N1qlConnector.Cluster.Url

/-! ## Numbers of steps -/

/-- The digit of a value below thirty-six. -/
def stepDigit (value : Nat) : Char :=
  if value < 26 then Char.ofNat ('a'.toNat + value) else Char.ofNat ('0'.toNat + value - 26)

/-- The threshold of the digit at `place`, where the first place is 36 and the others follow at the
same distance. -/
def threshold (bias place : Nat) : Nat :=
  if place ≤ bias then 1 else if bias + 26 ≤ place then 26 else place - bias

theorem threshold_pos (bias place : Nat) : 0 < threshold bias place := by
  unfold threshold
  split
  · omega
  · split <;> omega

/-- A number of steps, from the digit at `place` on. -/
def stepDigits (bias place steps : Nat) : List Char :=
  let limit := threshold bias place
  if steps < limit then [stepDigit steps]
  else
    let above := steps - limit
    stepDigit (limit + above % (36 - limit)) :: stepDigits bias (place + 36) (above / (36 - limit))
termination_by steps
decreasing_by
  have positive := threshold_pos bias place
  calc (steps - threshold bias place) / (36 - threshold bias place)
      ≤ steps - threshold bias place := Nat.div_le_self _ _
    _ < steps := by omega

/-- How often a number has to be divided by 35 until it is at most 455, and what is left. -/
def scaleDown (value : Nat) : Nat × Nat :=
  if 455 < value then
    let (count, left) := scaleDown (value / 35)
    (count + 1, left)
  else (0, value)
termination_by value
decreasing_by exact Nat.div_lt_self (by omega) (by omega)

/-- The bias after a number of steps, when `placed` letters stand in the label. The first number is
mostly much larger than the others. -/
def adapt (isFirst : Bool) (steps placed : Nat) : Nat :=
  let damped := if isFirst then steps / 700 else steps / 2
  let (count, left) := scaleDown (damped + damped / placed)
  36 * count + 36 * left / (left + 38)

/-! ## Labels -/

/-- How far a label has been encoded. -/
structure LabelProgress where
  /-- The steps since the last letter that was told. -/
  steps : Nat
  bias : Nat
  /-- How many letters of the label are told, those of ASCII included. -/
  placed : Nat
  /-- Whether none beyond ASCII is among them. -/
  isFirst : Bool
  digits : List Char

/-- Goes past one letter of the label on the way through the places of a code point. -/
def LabelProgress.pass (code : Nat) (progress : LabelProgress) (c : Char) : LabelProgress :=
  if c.toNat < code then { progress with steps := progress.steps + 1 }
  else if c.toNat = code then
    { steps := 0
      bias := adapt progress.isFirst progress.steps (progress.placed + 1)
      placed := progress.placed + 1
      isFirst := false
      digits := progress.digits ++ stepDigits progress.bias 36 progress.steps }
  else progress

/-- Tells all letters with the given code points, which ascend from `next` on. -/
def LabelProgress.tell (label : List Char) (progress : LabelProgress) (next : Nat) :
    List Nat → LabelProgress
  | [] => progress
  | code :: codes =>
    let skipped := (code - next) * (progress.placed + 1)
    let after := label.foldl (LabelProgress.pass code)
      { progress with steps := progress.steps + skipped }
    tell label { after with steps := after.steps + 1 } (code + 1) codes

/-- A label in ASCII. -/
def asciiLabel (label : List Char) : List Char :=
  let (plain, others) := label.partition fun c => decide (c.toNat < 0x80)
  if others.isEmpty then label
  else
    let codes := (others.map Char.toNat).mergeSort.eraseDups
    let told := LabelProgress.tell label ⟨0, 72, plain.length, true, []⟩ 0x80 codes
    "xn--".toList ++ plain ++ (if plain.isEmpty then [] else ['-']) ++ told.digits

/-! ## Names -/

/-- Whether a character shows nothing and is left out of a name. -/
def isOmitted (c : Char) : Bool :=
  "\u00ad\u034f\u180b\u180c\u180d\u180f\u200b\u2060\u2064\ufeff".toList.contains c
    || (decide ('\ufe00' ≤ c) && decide (c ≤ '\ufe0f'))

/-- The plain form of a character. -/
def plainForm (c : Char) : List Char :=
  if c = '\u3002' ∨ c = '\uff61' then ['.']
  else if '\uff01' ≤ c ∧ c ≤ '\uff5e' then
    Text.lowerChar (Char.ofNat (c.toNat - '\uff01'.toNat + '!'.toNat))
  else Text.lowerChar c

/-- Whether a character can be part of a name in ASCII. -/
def isNameChar (c : Char) : Bool :=
  decide (' ' < c) && decide (c ≤ '~') && !"#%/:<>?@[\\]^|".toList.contains c

/-- The name that is looked up, if there is one. -/
def asciiName? (name : List Char) : Option (List Char) :=
  let plain := (name.filter (!isOmitted ·)).flatMap plainForm
  let found := ['.'].intercalate ((Text.splitWhere (· == '.') plain).map asciiLabel)
  if found.all isNameChar then some found else none

end N1qlConnector.Cluster.Url
