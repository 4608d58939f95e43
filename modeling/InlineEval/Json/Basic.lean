import InlineEval.Json.Token

/-!
# JSON values

Objects keep their members in order and may repeat a name. Numbers keep their
digits: nothing here computes with them.
-/

namespace InlineEval

/-- A JSON value. -/
inductive Json where
  | null
  | bool (value : Bool)
  | number (digits : Text)
  | string (literal : Json.Literal)
  | array (items : List Json)
  | object (members : List (Json.Literal × Json))
  deriving Repr, Inhabited

namespace Json

def ofText (t : Text) : Json := .string (some t)

/-- The value of a number. -/
def ofNat (n : Nat) : Json := .number (Text.ofNat n)

def ofText? : Option Text → Json
  | none => .null
  | some t => ofText t

/-- An object with the given names. -/
def ofFields (fields : List (Text × Json)) : Json :=
  .object (fields.map fun field => (some field.1, field.2))

end Json

end InlineEval
