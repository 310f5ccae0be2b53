import N1qlConnector.Entries
import N1qlConnector.Json.Basic

/-!
# Fresh names and parameters

Values are never written into a statement. Each is bound to a parameter, and a placeholder stands
for it. A placeholder is a bare word, so a proposed name is first made into one, and if it is taken
it gets the smallest number that makes it free.

## Main results

* `freshName_eq_self` — a name that is free is used as it is.
-/

namespace N1qlConnector.Statement

/-- The proposal with a number after it. -/
def numbered (proposal : String) (n : Nat) : String := proposal ++ "_" ++ toString n

/-- The proposal if it is not taken, else the proposal with the least number that is not. Of the
numbered names at most as many are taken as there are taken names, so that many numbers are enough
to try. -/
def freshName (taken : List String) (proposal : String) : String :=
  if proposal ∈ taken then
    let candidates := (List.range taken.length).map fun n => numbered proposal (n + 1)
    (candidates.find? (· ∉ taken)).getD proposal
  else proposal

theorem freshName_eq_self {taken : List String} {proposal : String} (free : proposal ∉ taken) :
    freshName taken proposal = proposal := by
  simp [freshName, free]

/-- A text as a bare word: all but ASCII letters, digits and underscores become underscores. -/
def bareWord (text : String) : String :=
  String.ofList (text.toList.map fun c => if c.isAlphanum || c = '_' then c else '_')

/-- The values of a statement's parameters, in the order in which they were bound. -/
abbrev Parameters := Entries Json

/-- Binds a value under a free name that is as close to the proposal as possible. The answer holds
the name. -/
def bind (parameters : Parameters) (proposal : String) (value : Json) : String × Parameters :=
  let name := freshName parameters.keys (bareWord proposal)
  (name, parameters.insert name value)

/-- The placeholder of a parameter. -/
def placeholder (name : String) : String := "$" ++ name

end N1qlConnector.Statement
