import InlineEval.Text.Utf8

/-!
# The environment

Environment variables come as a list of assignments, each a name, an equals
sign and a value. A name that is looked up ends where some equals sign of the
assignment stands; it need not be the first one, so a name with an equals sign
in it can be found in the value of a shorter one. A value that is no text
counts as not set.
-/

namespace InlineEval

open Text

/-- The values of environment variables, as far as they are set to a text. -/
abbrev Environment := Text → Option Text

namespace Environment

/-- The variable that setting `name` to `bytes` makes, looked up as `wanted`:
what stands behind `wanted` and an equals sign in the assignment. -/
def valueOf? (wanted name : Text) (bytes : List UInt8) : Option (List UInt8) :=
  let octets (t : Text) : List UInt8 := (String.ofList t).toUTF8.toList
  let assignment := octets name ++ 0x3D :: bytes
  let start := octets wanted ++ [0x3D]
  if start.isPrefixOf assignment then some (assignment.drop start.length) else none

/-- The environment that consists of some variables. The first assignment in
which a name is found counts, and a name with a zero character is never
found. -/
def ofVariables (list : List (Text × List UInt8)) : Environment := fun wanted =>
  if wanted.contains '\x00' then none
  else (list.findSome? fun (name, bytes) => valueOf? wanted name bytes).bind Utf8.decode?

end Environment

end InlineEval
