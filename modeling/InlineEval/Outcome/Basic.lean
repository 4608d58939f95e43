import InlineEval.Text.Basic

/-!
# Outcomes of evaluating a segment

What one run of the interpreter reports: whether the program came to its end,
the variables it left behind, the value of a trailing expression, what it
printed, and how it failed. A failure is classified by its message, unless the
process around the program failed, which the message cannot pretend.
-/

namespace InlineEval

open Text

/-- Variables and their values, in the order in which they were bound. -/
abbrev Bindings := List (Text × Text)

namespace Bindings

/-- The value of the first variable of that name. -/
def get? (bindings : Bindings) (name : Text) : Option Text :=
  (bindings.find? (·.1 == name)).map (·.2)

/-- The last `n` variables, the oldest of them first. -/
def last (bindings : Bindings) (n : Nat) : Bindings := bindings.drop (bindings.length - n)

end Bindings

/-- What one call of `print` wrote. -/
structure PrintEntry where
  index : UInt64
  text : Text
  deriving DecidableEq, Repr

/-- Kinds of failure. -/
inductive ErrorClass where
  | syntaxError
  | indentation
  | name
  | runtime
  /-- Any other exception, by the name of its type. -/
  | other (typeName : Text)
  | timeout
  | launch
  | protocol
  deriving DecidableEq, Repr

/-- The kind that the beginning of a message tells, up to its first colon. -/
def ErrorClass.ofMessage (message : Text) : ErrorClass :=
  let head := message.takeWhile (· ≠ ':')
  if head = "Syntax Error".toList then .syntaxError
  else if head = "Indentation Error".toList then .indentation
  else if head = "Name Error".toList then .name
  else if head = "Runtime Error".toList then .runtime
  else .other (trim head)

/-- What one evaluation reports. -/
structure Outcome where
  success : Bool
  bindings : Bindings
  expression : Option Text
  output : Option Text
  error : Option Text
  prints : List PrintEntry
  /-- How the process around the program failed; no program can report it. -/
  fault : Option ErrorClass
  deriving DecidableEq, Repr

namespace Outcome

/-- Success with nothing to show. -/
def silent : Outcome := ⟨true, [], none, none, none, [], none⟩

def failure (message : Text) : Outcome := ⟨false, [], none, none, some message, [], none⟩

/-- The kind of a failure; a success has none. -/
def errorClass (outcome : Outcome) : Option ErrorClass :=
  if outcome.success then none
  else some (outcome.fault.getD (.ofMessage (outcome.error.getD [])))

/-- The message of a failure; a success has none, whatever it reports. -/
def errorMessage (outcome : Outcome) : Option Text :=
  if outcome.success then none
  else some (outcome.error.getD "Evaluation failed".toList)

theorem errorMessage_eq_none_iff {outcome : Outcome} :
    outcome.errorMessage = none ↔ outcome.success = true := by
  cases h : outcome.success <;> simp [errorMessage, h]

end Outcome

end InlineEval
