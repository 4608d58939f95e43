import InlineEval.Text.Basic

/-!
# JSON tokens

A JSON text is a sequence of tokens. Writing spells them one after another;
the `Lexer` finds them again. A string literal may escape half of a surrogate
pair: it is well formed, but it stands for no text.
-/

namespace InlineEval.Json

open Text

/-- What a string literal stands for, if it stands for a text. -/
abbrev Literal := Option Text

/-- The tokens of JSON. A number is kept as it is written. -/
inductive Token where
  | openArray
  | closeArray
  | openObject
  | closeObject
  | comma
  | colon
  | null
  | bool (value : Bool)
  | number (digits : Text)
  | string (literal : Literal)
  deriving DecidableEq, Repr

namespace Token

def ofPunctuation? : Char → Option Token
  | '[' => some openArray
  | ']' => some closeArray
  | '{' => some openObject
  | '}' => some closeObject
  | ',' => some comma
  | ':' => some colon
  | _ => none

/-- An exponent after its letter: digits, perhaps signed. -/
def isExponent (t : Text) : Bool :=
  let digits := match t with
    | '+' :: rest => rest
    | '-' :: rest => rest
    | _ => t
  !digits.isEmpty && digits.all Char.isDigit

/-- What may follow the integer part of a number: a fraction, an exponent,
both or nothing. -/
def isNumberTail (t : Text) : Bool :=
  let isPower (t : Text) : Bool := match t with
    | [] => true
    | c :: rest => (c == 'e' || c == 'E') && isExponent rest
  match t with
  | '.' :: rest =>
      rest.head?.any Char.isDigit && isPower (rest.dropWhile Char.isDigit)
  | _ => isPower t

/-- A number has digits before its fraction, and no zero in front of others. -/
def isNumber (t : Text) : Bool :=
  let unsigned := match t with
    | '-' :: rest => rest
    | _ => t
  match unsigned with
  | '0' :: rest => isNumberTail rest
  | c :: rest => c.isDigit && isNumberTail (rest.dropWhile Char.isDigit)
  | [] => false

/-- The token that a run of characters outside strings is. -/
def ofWord? (word : Text) : Option Token :=
  if word = "null".toList then some null
  else if word = "true".toList then some (bool true)
  else if word = "false".toList then some (bool false)
  else if isNumber word then some (number word)
  else none

end Token

/-- The four characters that may stand between tokens. -/
def isSpace (c : Char) : Bool := c == ' ' || c == '\t' || c == '\n' || c == '\r'

end InlineEval.Json
