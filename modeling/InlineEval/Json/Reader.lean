import InlineEval.Json.Basic
import InlineEval.Json.Lexer

/-!
# Reading JSON

Tokens are put together to a value one by one. Open arrays and objects wait on
a stack, so that values may be nested to any depth.
-/

namespace InlineEval.Json

/-- An array or an object that is still open, with what has been completed of
it in reverse. In an object the value of `name` is being read. -/
inductive Frame where
  | array (items : List Json)
  | object (members : List (Literal × Json)) (name : Literal)

/-- What may come next, and what waits for it. -/
inductive Reader where
  /-- A value. -/
  | value (stack : List Frame)
  /-- The first item of an array, or its end. -/
  | firstItem (stack : List Frame)
  /-- The first name in an object, or its end. -/
  | firstName (stack : List Frame)
  /-- A name after a comma. -/
  | name (stack : List Frame) (members : List (Literal × Json))
  /-- The colon after a name. -/
  | colon (stack : List Frame) (members : List (Literal × Json)) (name : Literal)
  /-- Whatever follows a complete value. -/
  | complete (stack : List Frame) (value : Json)

namespace Reader

/-- The first token of a value. -/
def begin (stack : List Frame) : Token → Option Reader
  | .null => some (complete stack .null)
  | .bool b => some (complete stack (.bool b))
  | .number digits => some (complete stack (.number digits))
  | .string literal => some (complete stack (.string literal))
  | .openArray => some (firstItem stack)
  | .openObject => some (firstName stack)
  | _ => none

/-- The token after a complete value inside an array or an object. -/
def proceed (stack : List Frame) (done : Json) : Frame → Token → Option Reader
  | .array items, .comma => some (.value (.array (done :: items) :: stack))
  | .array items, .closeArray => some (complete stack (.array (done :: items).reverse))
  | .object members literal, .comma => some (.name stack ((literal, done) :: members))
  | .object members literal, .closeObject =>
      some (complete stack (.object ((literal, done) :: members).reverse))
  | _, _ => none

/-- One token. -/
def step : Reader → Token → Option Reader
  | value stack, token => begin stack token
  | firstItem stack, .closeArray => some (complete stack (.array []))
  | firstItem stack, token => begin (.array [] :: stack) token
  | firstName stack, .closeObject => some (complete stack (.object []))
  | firstName stack, .string literal => some (colon stack [] literal)
  | name stack members, .string literal => some (colon stack members literal)
  | colon stack members literal, .colon => some (value (.object members literal :: stack))
  | complete (frame :: stack) done, token => proceed stack done frame token
  | _, _ => none

/-- The tokens end after a complete value that nothing encloses. -/
def finish : Reader → Option Json
  | complete [] done => some done
  | _ => none

end Reader

def ofTokens? (tokens : List Token) : Option Json :=
  (tokens.foldlM Reader.step (.value [])).bind Reader.finish

/-- The value that a text is written form of. -/
def parse? (t : Text) : Option Json := (tokenize t).bind ofTokens?

end InlineEval.Json
