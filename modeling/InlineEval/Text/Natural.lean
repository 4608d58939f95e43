import InlineEval.Text.Basic

/-!
# Reading 64-bit numbers

Durations are given as decimal numbers that fit 64 bits. A plus sign may stand
in front; nothing else may stand around the digits, white space included.
Which complaint wins follows the reading order: characters are looked at from
the left, and the first one that is no digit, or the digit at which the value
grows too large, decides.
-/

namespace InlineEval.Text

/-- Why a text is no number of 64 bits. -/
inductive NumberError where
  | empty
  | invalidDigit
  | tooLarge
  deriving DecidableEq, Repr

def NumberError.message : NumberError → Text
  | empty => "cannot parse integer from empty string".toList
  | invalidDigit => "invalid digit found in string".toList
  | tooLarge => "number too large to fit in target type".toList

/-- One more than the largest number of 64 bits. -/
def wordBound : Nat := 0x10000000000000000

def digit? (c : Char) : Option Nat :=
  if c.isDigit then some (c.toNat - '0'.toNat) else none

/-- Digits read on from the value of those before them. -/
def digitsFrom (value : Nat) : Text → Except NumberError Nat
  | [] => .ok value
  | c :: rest =>
      match digit? c with
      | none => .error .invalidDigit
      | some d =>
          if value * 10 + d < wordBound then digitsFrom (value * 10 + d) rest
          else .error .tooLarge

/-- A number of 64 bits, with or without a plus sign. -/
def readNatural (t : Text) : Except NumberError Nat :=
  match t with
  | [] => .error .empty
  | '+' :: digits => if digits.isEmpty then .error .invalidDigit else digitsFrom 0 digits
  | digits => digitsFrom 0 digits

end InlineEval.Text
