import InlineEval.Text.Basic

/-!
# Control sequences

A terminal takes some of the text that it gets for commands: control
characters and the sequences that an escape character introduces. A stream
that is no terminal gets the text without them. White space is kept, and so is
every character that no sequence has claimed; a sequence may be left open, and
then claims whatever comes after it until it ends.

Sequences are defined on the octets of a text, and one octet inside a
character, 9C, ends some of them. No character is kept in part.
-/

namespace InlineEval.Text

/-- Switches a style of a terminal on or off. -/
def escapeSequence (code : Text) : Text := '\x1B' :: '[' :: (code ++ ['m'])

def styled (codes : List Text) (t : Text) : Text :=
  codes.flatMap escapeSequence ++ t ++ escapeSequence ['0']

namespace ControlSequence

/-- The sequence that has begun and not ended. -/
inductive State where
  | none
  /-- An escape character, whose sequence is not known yet. -/
  | escape
  /-- An escape sequence of several octets. -/
  | escapeIntermediate
  /-- A control sequence: parameters, and a final octet. -/
  | control
  /-- A device control string of which nothing is known. -/
  | device
  | deviceParameters
  | deviceIntermediate
  /-- A string of any contents that the octet 9C ends. -/
  | string
  /-- A command to the operating system, which a bell ends. -/
  | command
  deriving DecidableEq, Repr

def afterEscape (b : Nat) : State :=
  if b < 0x20 ∨ b = 0x7F then .escape
  else if b < 0x30 then .escapeIntermediate
  else if b = 0x50 then .device
  else if b = 0x5B then .control
  else if b = 0x5D then .command
  else if b = 0x58 ∨ b = 0x5E ∨ b = 0x5F then .string
  else if b < 0x7F then .none
  else .escape

/-- One octet. Three of them mean the same everywhere. -/
def step (state : State) (b : Nat) : State :=
  if b = 0x18 ∨ b = 0x1A then .none
  else if b = 0x1B then .escape
  else match state with
    | .none => .none
    | .escape => afterEscape b
    | .escapeIntermediate => if 0x30 ≤ b ∧ b < 0x7F then .none else .escapeIntermediate
    | .control => if 0x40 ≤ b ∧ b < 0x7F then .none else .control
    | .device =>
        if b < 0x20 ∨ 0x7F ≤ b then .device
        else if b < 0x30 then .deviceIntermediate
        else if b < 0x40 then .deviceParameters
        else .string
    | .deviceParameters =>
        if b < 0x20 ∨ 0x7F ≤ b then .deviceParameters
        else if b < 0x30 then .deviceIntermediate
        else if b < 0x3C then .deviceParameters
        else .string
    | .deviceIntermediate =>
        if b < 0x30 ∨ 0x7F ≤ b then .deviceIntermediate else .string
    | .string => if b = 0x9C then .none else .string
    | .command => if b = 0x07 then .none else .command

/-- All octets of a character. -/
def State.advance (state : State) (c : Char) : State :=
  (String.utf8EncodeChar c).foldl (fun state b => step state b.toNat) state

def isWhiteControl (c : Char) : Bool := c == '\t' || c == '\n' || c == '\x0C' || c == '\r'

/-- White space is obeyed at once even inside these sequences. -/
def State.obeysWhite : State → Bool
  | .none => true
  | .escape => true
  | .escapeIntermediate => true
  | .control => true
  | _ => false

/-- The character is kept. -/
def State.keeps (state : State) (c : Char) : Bool :=
  (state.obeysWhite && isWhiteControl c) ||
    (state == .none && 0x20 ≤ c.toNat && c.toNat ≠ 0x7F)

/-- The kept characters of a text, after an open sequence. -/
def plainFrom (state : State) : Text → Text
  | [] => []
  | c :: rest =>
      if state.keeps c then c :: plainFrom .none rest else plainFrom (state.advance c) rest

/-- The kept characters of a stream. White space interrupts a sequence without
ending it: behind the characters that are kept after the white space, up to a
control character, the sequence goes on, unless one of those characters has
several octets. While characters are kept, `kept` holds and `state` is the
sequence that was interrupted. -/
def plainStreamFrom (kept : Bool) (state : State) : Text → Text
  | [] => []
  | c :: rest =>
      if (if kept then State.none else state).keeps c then
        c :: plainStreamFrom true (if c.toNat < 0x80 then state else .none) rest
      else plainStreamFrom false (state.advance c) rest

end ControlSequence

/-- The text without control characters and sequences. White space ends a
sequence in which it is obeyed. -/
def plain (t : Text) : Text := ControlSequence.plainFrom .none t

/-- The text as it arrives on a stream that is no terminal. -/
def plainStream (t : Text) : Text := ControlSequence.plainStreamFrom false .none t

end InlineEval.Text
