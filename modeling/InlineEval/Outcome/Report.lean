import InlineEval.Json.Printer
import InlineEval.Json.Reader
import InlineEval.Outcome.Basic
import InlineEval.Text.Natural

/-!
# Reports

An interpreter reports its outcome as a JSON object. Members may be missing,
except whether the program succeeded, and unknown ones are ignored; no known
member may be repeated. An array with the values of the members in order is a
report too. Variables keep their order and their repetitions.
-/

namespace InlineEval

open Text

namespace Json

variable {α : Type}

/-- The members of an object, if each name stands for a text. -/
def named? (members : List (Literal × Json)) : Option (List (Text × Json)) :=
  members.mapM fun member => member.1.map (·, member.2)

/-- The value of a member that may be missing, but not be repeated. -/
def member? (name : Text) (fields : List (Text × Json)) : Option (Option Json) :=
  match fields.filter (·.1 == name) with
  | [] => some none
  | [field] => some (some field.2)
  | _ => none

def text? : Json → Option Text
  | .string literal => literal
  | _ => none

def nullableText? : Json → Option (Option Text)
  | .null => some none
  | .string literal => literal.map some
  | _ => none

def bool? : Json → Option Bool
  | .bool value => some value
  | _ => none

/-- A number of 64 bits without sign, fraction and exponent. -/
def word? : Json → Option UInt64
  | .number digits =>
      match digitsFrom 0 digits with
      | .ok n => some (UInt64.ofNat n)
      | .error _ => none
  | _ => none

def items? : Json → Option (List Json)
  | .array items => some items
  | _ => none

/-- What a member says; the member must be there. -/
def required (name : Text) (read : Json → Option α) (fields : List (Text × Json)) : Option α :=
  (member? name fields).bind fun value => value.bind read

/-- What a member says, or `absent` if it is missing. -/
def optional (name : Text) (absent : α) (read : Json → Option α) (fields : List (Text × Json)) :
    Option α :=
  (member? name fields).bind fun
    | none => some absent
    | some value => read value

end Json

open Json

namespace PrintEntry

def fieldNames : List Text := ["index".toList, "text".toList]

def toJson (entry : PrintEntry) : Json :=
  Json.ofFields [("index".toList, Json.ofNat entry.index.toNat), ("text".toList, .ofText entry.text)]

def ofFields? (fields : List (Text × Json)) : Option PrintEntry := do
  let index ← required "index".toList word? fields
  let text ← required "text".toList text? fields
  return ⟨index, text⟩

/-- An object with both members, or an array of exactly both. -/
def ofJson? : Json → Option PrintEntry
  | .object members => (named? members).bind ofFields?
  | .array items =>
      if items.length ≤ fieldNames.length then ofFields? (fieldNames.zip items) else none
  | _ => none

/-- An array of entries. -/
def listOfJson? (value : Json) : Option (List PrintEntry) :=
  (items? value).bind (List.mapM ofJson?)

end PrintEntry

namespace Bindings

def toJson (bindings : Bindings) : Json :=
  Json.ofFields (bindings.map fun binding => (binding.1, .ofText binding.2))

/-- An object of texts, or null for no variables. -/
def ofJson? : Json → Option Bindings
  | .null => some []
  | .object members => do
      (← named? members).mapM fun field => (text? field.2).map (field.1, ·)
  | _ => none

end Bindings

namespace Outcome

/-- The members of a report, in their order. -/
def fieldNames : List Text :=
  ["success".toList, "variables".toList, "expression".toList, "output".toList, "error".toList,
    "print_outputs".toList]

/-- The report of an outcome. A fault of the process is no part of it. -/
def toJson (outcome : Outcome) : Json :=
  Json.ofFields
    [("success".toList, .bool outcome.success),
      ("variables".toList, Bindings.toJson outcome.bindings),
      ("expression".toList, .ofText? outcome.expression),
      ("output".toList, .ofText? outcome.output),
      ("error".toList, .ofText? outcome.error),
      ("print_outputs".toList, .array (outcome.prints.map PrintEntry.toJson))]

def ofFields? (fields : List (Text × Json)) : Option Outcome := do
  let success ← required "success".toList bool? fields
  let bindings ← optional "variables".toList [] Bindings.ofJson? fields
  let expression ← optional "expression".toList none nullableText? fields
  let output ← optional "output".toList none nullableText? fields
  let error ← optional "error".toList none nullableText? fields
  let prints ← optional "print_outputs".toList [] PrintEntry.listOfJson? fields
  return ⟨success, bindings, expression, output, error, prints, none⟩

/-- The outcome that a report tells. -/
def ofJson? : Json → Option Outcome
  | .object members => (named? members).bind ofFields?
  | .array items =>
      if items.length ≤ fieldNames.length then ofFields? (fieldNames.zip items) else none
  | _ => none

/-- The report of an outcome as one line of text. -/
def render (outcome : Outcome) : Text := outcome.toJson.render

/-- The outcome that a text reports. -/
def parse? (t : Text) : Option Outcome := (Json.parse? t).bind ofJson?

/-- No report claims a fault of the process. -/
theorem fault_of_ofFields? {fields : List (Text × Json)} {outcome : Outcome}
    (h : ofFields? fields = some outcome) : outcome.fault = none := by
  simp only [ofFields?, Option.bind_eq_bind, Option.pure_def, Option.bind_eq_some_iff,
    Option.some.injEq] at h
  obtain ⟨_, _, _, _, _, _, _, _, _, _, _, _, rfl⟩ := h
  rfl

theorem fault_of_parse? {t : Text} {outcome : Outcome} (h : parse? t = some outcome) :
    outcome.fault = none := by
  simp only [parse?, Option.bind_eq_some_iff] at h
  obtain ⟨value, _, h⟩ := h
  unfold ofJson? at h
  split at h
  · obtain ⟨_, _, h⟩ := Option.bind_eq_some_iff.1 h
    exact fault_of_ofFields? h
  · split at h
    · exact fault_of_ofFields? h
    · cases h
  · cases h

end Outcome

end InlineEval
