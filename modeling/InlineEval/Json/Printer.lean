import InlineEval.Json.Basic

/-!
# Writing JSON

A value is turned into its tokens, and the tokens are spelled. What a format
decides is how the tokens that separate are spelled and which characters of a
string are escaped.
-/

namespace InlineEval.Json

open Text

/-- A hexadecimal digit, in lower case. -/
def hexDigit (n : Nat) : Char := Nat.digitChar (n % 16)

/-- The escape of a UTF-16 unit. -/
def escapeUnit (n : Nat) : Text :=
  ['\\', 'u', hexDigit (n / 0x1000), hexDigit (n / 0x100), hexDigit (n / 0x10), hexDigit n]

def shortEscape? : Char → Option Char
  | '"' => some '"'
  | '\\' => some '\\'
  | '\x08' => some 'b'
  | '\x0C' => some 'f'
  | '\n' => some 'n'
  | '\r' => some 'r'
  | '\t' => some 't'
  | _ => none

/-- How values are written. -/
structure Format where
  comma : Text
  colon : Text
  /-- The spelling of a character that has no short escape. -/
  escape : Char → Text

/-- No white space, and only the escapes that JSON requires. -/
def compact : Format where
  comma := [',']
  colon := [':']
  escape c := if c.toNat < 0x20 then escapeUnit c.toNat else [c]

/-- Printable ASCII only, with a blank behind each comma and colon. Every other
character is spelled in UTF-16 units. The bootstrap script of the interpreter
writes its reports in this format. -/
def ascii : Format where
  comma := ", ".toList
  colon := ": ".toList
  escape c :=
    let n := c.toNat
    if 0x20 ≤ n ∧ n ≤ 0x7E then [c]
    else if n < 0x10000 then escapeUnit n
    else
      escapeUnit (0xD800 + (n - 0x10000) / 0x400) ++ escapeUnit (0xDC00 + (n - 0x10000) % 0x400)

namespace Format

def spellChar (format : Format) (c : Char) : Text :=
  match shortEscape? c with
  | some letter => ['\\', letter]
  | none => format.escape c

/-- The spelling of a string literal. One that stands for no text is spelled
as half of a surrogate pair. -/
def quote (format : Format) : Literal → Text
  | some t => '"' :: (t.flatMap format.spellChar ++ ['"'])
  | none => '"' :: (escapeUnit 0xD800 ++ ['"'])

def spell (format : Format) : Token → Text
  | .openArray => ['[']
  | .closeArray => [']']
  | .openObject => ['\x7b']
  | .closeObject => ['\x7d']
  | .comma => format.comma
  | .colon => format.colon
  | .null => "null".toList
  | .bool true => "true".toList
  | .bool false => "false".toList
  | .number digits => digits
  | .string literal => format.quote literal

end Format

mutual

def tokens : Json → List Token
  | .null => [.null]
  | .bool value => [.bool value]
  | .number digits => [.number digits]
  | .string literal => [.string literal]
  | .array items => .openArray :: (itemTokens items ++ [.closeArray])
  | .object members => .openObject :: (memberTokens members ++ [.closeObject])

/-- The tokens of the items of an array, commas included. -/
def itemTokens : List Json → List Token
  | [] => []
  | [item] => tokens item
  | item :: next :: rest => tokens item ++ .comma :: itemTokens (next :: rest)

/-- The tokens of the members of an object, commas included. -/
def memberTokens : List (Literal × Json) → List Token
  | [] => []
  | [(name, value)] => .string name :: .colon :: tokens value
  | (name, value) :: next :: rest =>
      .string name :: .colon :: (tokens value ++ .comma :: memberTokens (next :: rest))

end

/-- A value in a given format. -/
def renderAs (format : Format) (value : Json) : Text := (tokens value).flatMap format.spell

/-- A value in the compact format. -/
def render (value : Json) : Text := renderAs compact value

end InlineEval.Json
