import InlineEval.Json.Token

/-!
# Finding JSON tokens

The lexer reads one character at a time. A string literal is collected as
characters and escaped UTF-16 units, which are put together when it ends; all
else that is neither white space nor punctuation is collected into words,
which end where the next token starts.
-/

namespace InlineEval.Json

open Text

/-- A part of a string literal: a character, or a UTF-16 unit in an escape. -/
inductive Piece where
  | char (c : Char)
  | unit (n : Nat)
  deriving DecidableEq, Repr

def pairedCodePoint (high low : Nat) : Nat :=
  0x10000 + (high - 0xD800) * 0x400 + (low - 0xDC00)

/-- The text of a string literal whose parts are given in reverse, with `after`
behind them. The second unit of a surrogate pair must stand right behind the
first. -/
def assemble (after : Text) : List Piece → Literal
  | [] => some after
  | .char c :: before => assemble (c :: after) before
  | .unit n :: before =>
      if n < 0xD800 ∨ 0xDFFF < n then assemble (Char.ofNat n :: after) before
      else if n < 0xDC00 then none
      else match before with
        | .unit high :: before =>
            if 0xD800 ≤ high ∧ high < 0xDC00 then
              assemble (Char.ofNat (pairedCodePoint high n) :: after) before
            else none
        | _ => none

/-- The character that a one-letter escape stands for. -/
def unescape? : Char → Option Char
  | '"' => some '"'
  | '\\' => some '\\'
  | '/' => some '/'
  | 'b' => some '\x08'
  | 'f' => some '\x0C'
  | 'n' => some '\n'
  | 'r' => some '\r'
  | 't' => some '\t'
  | _ => none

def hexDigit? (c : Char) : Option Nat :=
  if '0' ≤ c ∧ c ≤ '9' then some (c.toNat - '0'.toNat)
  else if 'a' ≤ c ∧ c ≤ 'f' then some (c.toNat - 'a'.toNat + 10)
  else if 'A' ≤ c ∧ c ≤ 'F' then some (c.toNat - 'A'.toNat + 10)
  else none

namespace Lexer

/-- What the lexer is reading, with what it has collected of it in reverse. -/
inductive Mode where
  | between
  | word (collected : Text)
  | string (collected : List Piece)
  /-- After a backslash. -/
  | escape (collected : List Piece)
  /-- In a numeric escape that still lacks `digits` digits. -/
  | unit (collected : List Piece) (digits value : Nat)
  deriving DecidableEq, Repr

/-- The lexer between two characters, with the tokens found so far in
reverse. -/
structure State where
  mode : Mode
  tokens : List Token
  deriving DecidableEq, Repr

def initial : State := ⟨.between, []⟩

def endWord (collected : Text) (tokens : List Token) : Option (List Token) :=
  (Token.ofWord? collected.reverse).map (· :: tokens)

def stepBetween (tokens : List Token) (c : Char) : State :=
  if isSpace c then ⟨.between, tokens⟩
  else if c = '"' then ⟨.string [], tokens⟩
  else match Token.ofPunctuation? c with
    | some token => ⟨.between, token :: tokens⟩
    | none => ⟨.word [c], tokens⟩

def endsWord (c : Char) : Bool := isSpace c || c == '"' || (Token.ofPunctuation? c).isSome

/-- One character; control characters may not stand in a string. -/
def step (state : State) (c : Char) : Option State :=
  match state.mode with
  | .between => some (stepBetween state.tokens c)
  | .word collected =>
      if endsWord c then (endWord collected state.tokens).map (stepBetween · c)
      else some ⟨.word (c :: collected), state.tokens⟩
  | .string collected =>
      if c = '"' then some ⟨.between, .string (assemble [] collected) :: state.tokens⟩
      else if c = '\\' then some ⟨.escape collected, state.tokens⟩
      else if c.toNat < 0x20 then none
      else some ⟨.string (.char c :: collected), state.tokens⟩
  | .escape collected =>
      if c = 'u' then some ⟨.unit collected 4 0, state.tokens⟩
      else (unescape? c).map fun c => ⟨.string (.char c :: collected), state.tokens⟩
  | .unit collected digits value =>
      (hexDigit? c).map fun d =>
        if digits ≤ 1 then ⟨.string (.unit (value * 16 + d) :: collected), state.tokens⟩
        else ⟨.unit collected (digits - 1) (value * 16 + d), state.tokens⟩

/-- The end of the text may end a word, but no string. -/
def finish (state : State) : Option (List Token) :=
  match state.mode with
  | .between => some state.tokens.reverse
  | .word collected => (endWord collected state.tokens).map List.reverse
  | _ => none

end Lexer

def tokenize (t : Text) : Option (List Token) :=
  (t.foldlM Lexer.step Lexer.initial).bind Lexer.finish

end InlineEval.Json
