import InlineEval.Text.Basic

/-!
# Decoding UTF-8

One machine reads the octets of a stream and says for every character that it
completes which one it is, and for every maximal beginning of a character that
cannot be completed that something was lost. Reading source is strict and
fails on a loss; reading what a process wrote is lenient and shows each loss
as U+FFFD.
-/

namespace InlineEval.Text.Utf8

/-- Where the machine stands: between characters, or inside one of which
`value` is known, `owed` octets are missing, and the next one must lie between
`low` and `high`. -/
inductive State where
  | between
  | inside (value owed low high : Nat)
  deriving DecidableEq, Repr

/-- What the octets read so far amount to: a character, or a loss. -/
abbrev Piece := Option Char

/-- The first octet of a character fixes its length; where a shorter form
exists, or the code point would be a surrogate or too large, it narrows the
range of the second octet. -/
def first (b : Nat) : List Piece × State :=
  if b < 0x80 then ([some (Char.ofNat b)], .between)
  else if b < 0xC2 then ([none], .between)
  else if b < 0xE0 then ([], .inside (b - 0xC0) 1 0x80 0xBF)
  else if b = 0xE0 then ([], .inside 0 2 0xA0 0xBF)
  else if b = 0xED then ([], .inside 0xD 2 0x80 0x9F)
  else if b < 0xF0 then ([], .inside (b - 0xE0) 2 0x80 0xBF)
  else if b = 0xF0 then ([], .inside 0 3 0x90 0xBF)
  else if b < 0xF4 then ([], .inside (b - 0xF0) 3 0x80 0xBF)
  else if b = 0xF4 then ([], .inside 4 3 0x80 0x8F)
  else ([none], .between)

/-- One octet. An octet that does not continue the open character ends it as a
loss and is read again as a first one. -/
def step : State → Nat → List Piece × State
  | .between, b => first b
  | .inside value owed low high, b =>
      if low ≤ b ∧ b ≤ high then
        let value := value * 64 + (b - 0x80)
        if owed ≤ 1 then ([some (Char.ofNat value)], .between)
        else ([], .inside value (owed - 1) 0x80 0xBF)
      else
        let (pieces, next) := first b
        (none :: pieces, next)

/-- The end of the stream inside a character is a loss. -/
def State.finish : State → List Piece
  | .between => []
  | .inside .. => [none]

/-- The pieces of a stream, with those before it in reverse order. -/
def piecesFrom (state : State) (before : List Piece) : List UInt8 → List Piece
  | [] => before.reverse ++ state.finish
  | b :: rest =>
      let (pieces, next) := step state b.toNat
      piecesFrom next (pieces.reverse ++ before) rest

def pieces (bytes : List UInt8) : List Piece := piecesFrom .between [] bytes

/-- Strict decoding: nothing may be lost. -/
def decode? (bytes : List UInt8) : Option Text := (pieces bytes).mapM id

/-- The character that stands for a loss. -/
def replacement : Char := '\uFFFD'

/-- Lenient decoding: one replacement character for each loss. -/
def decodeLossy (bytes : List UInt8) : Text := (pieces bytes).map (·.getD replacement)

end InlineEval.Text.Utf8
