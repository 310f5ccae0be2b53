import N1qlConnector.Json.Written

/-!
# Faults of a text that should have a given form

A text can fail to be read for two reasons: it is not JSON, or it is JSON of the wrong form. A
caller is told which, and of several faults the one that comes first in the text decides. Where the
parts of a record are read independently of each other, each fault therefore carries the place of
its part, and `Outcome` keeps the earliest.
-/

namespace N1qlConnector

/-- Why a text could not be read. -/
inductive Fault where
  /-- The text is not JSON, or holds something that no value can be made of. -/
  | malformed
  /-- The text is JSON, but not of the expected form. -/
  | mismatch
  deriving DecidableEq, Repr

/-- The result of reading. -/
abbrev Read (α : Type) := Except Fault α

/-- Where a part of a text comes from. The same part is held to slightly different rules. -/
inductive Source where
  /-- Straight from a text. -/
  | text
  /-- From a value that was read before. -/
  | value
  /-- From below a tagged choice, which is held back until its tag is known. -/
  | choice
  deriving DecidableEq, Repr

/-- The fault of finding `level` where something of another kind is expected. What is no value at
all is malformed; the inside of an array or object is not looked at. -/
def Written.Level.unexpected {α : Type} : Written.Level α → Fault
  | .number none | .string none | .broken => .malformed
  | _ => .mismatch

/-! ## Independent parts -/

/-- The result of reading some parts of a record. A fault carries the place of its part. -/
inductive Outcome (α : Type) where
  | ok (value : α)
  | fault (place : Nat) (cause : Fault)

namespace Outcome

def map {α β : Type} (f : α → β) : Outcome α → Outcome β
  | ok value => ok (f value)
  | fault place cause => fault place cause

/-- Joins the results of two parts; of two faults the earlier one counts. -/
def seq {α β : Type} : Outcome (α → β) → Outcome α → Outcome β
  | ok f, ok value => ok (f value)
  | fault place cause, ok _ => fault place cause
  | ok _, fault place cause => fault place cause
  | fault place cause, fault place' cause' =>
    if place ≤ place' then fault place cause else fault place' cause'

instance : Applicative Outcome where
  pure := ok
  map := map
  seq f value := seq f (value ())

@[simp] theorem map_ok {α β : Type} (f : α → β) (value : α) : f <$> ok value = ok (f value) := rfl

@[simp] theorem seq_ok {α β : Type} (f : α → β) (value : α) :
    ok f <*> ok value = ok (f value) := rfl

/-- The result of the part at `place`. -/
def ofRead {α : Type} (place : Nat) : Read α → Outcome α
  | .ok value => ok value
  | .error cause => fault place cause

end Outcome

end N1qlConnector
