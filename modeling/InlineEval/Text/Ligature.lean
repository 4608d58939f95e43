import InlineEval.Text.ZeroWidth

/-!
# Letters that merge

In some scripts two letters, or a letter and signs around it, are drawn as one
and take the columns of one. A text is measured from its end, so a ligature is
known by the letter that it ends with, and the characters before it are asked
one by one whether they belong to it.
-/

namespace InlineEval.Text

/-- What a ligature may end with. -/
inductive Ligature where
  /-- Arabic alef, with a lam before it. -/
  | alef
  /-- Hebrew lamed, with an alef before it. -/
  | lamed
  /-- Buginese ya, with a vowel sign and a letter before it. -/
  | ya
  /-- Buginese ya and the vowel sign before it. -/
  | vowelYa
  /-- A Tifinagh consonant, with another before it. -/
  | consonant
  /-- A Tifinagh consonant and the joining sign before it. -/
  | linkedConsonant
  /-- One of the Lisu tones that combine with a tone before them. -/
  | tone
  /-- Old Turkic i, with an ash before it. -/
  | orkhonI
  /-- A Khmer letter that a sign before it puts below another letter. -/
  | subscript
  deriving DecidableEq, Repr

namespace Ligature

/-- The Arabic letters of the joining group of alef. -/
def isAlef (n : Nat) : Bool :=
  n == 0x0622 || n == 0x0623 || n == 0x0625 || n == 0x0627 || (0x0671 ≤ n && n ≤ 0x0673) ||
    n == 0x0675 || n == 0x0773 || n == 0x0774 || (0x0870 ≤ n && n ≤ 0x0882)

/-- The Arabic letters of the joining group of lam. -/
def isLam (n : Nat) : Bool :=
  n == 0x0644 || (0x06B5 ≤ n && n ≤ 0x06B8) || n == 0x076A || n == 0x08A6 || n == 0x08C7

def isTifinagh (n : Nat) : Bool := (0x2D31 ≤ n && n ≤ 0x2D65) || n == 0x2D6F

/-- The Khmer letters that have a form below another letter. -/
def isSubscript (n : Nat) : Bool :=
  (0x1780 ≤ n && n ≤ 0x1782) || (0x1784 ≤ n && n ≤ 0x1787) || (0x1789 ≤ n && n ≤ 0x178C) ||
    (0x178E ≤ n && n ≤ 0x1793) || (0x1795 ≤ n && n ≤ 0x1798) || (0x179B ≤ n && n ≤ 0x179D) ||
    n == 0x17A0 || n == 0x17A2 || n == 0x17A7 || n == 0x17AB || n == 0x17AC || n == 0x17AF

def ofChar? (c : Char) : Option Ligature :=
  let n := c.toNat
  if isAlef n then some alef
  else if n = 0x05DC then some lamed
  else if n = 0x1A10 then some ya
  else if isTifinagh n then some consonant
  else if n = 0xA4FC ∨ n = 0xA4FD then some tone
  else if n = 0x10C03 then some orkhonI
  else if isSubscript n then some subscript
  else none

/-- Joiners and ignorable marks may stand inside a ligature. Arabic letters
join without a joiner, and one between them keeps them apart. -/
def admitsJoiner (ligature : Ligature) : Bool := ligature != alef

/-- The columns that a character before the ligature adds if it belongs to it,
and the ligature that may go on before that character. Some ligatures need a
joiner, which has been seen if `joined` holds. -/
def extend (ligature : Ligature) (joined : Bool) (c : Char) : Option (Int × Option Ligature) :=
  let n := c.toNat
  match ligature with
  | alef =>
      if isLam n then some (0, none) else if isTransparent c then some (0, some alef) else none
  | lamed => if joined && n == 0x05D0 then some (0, none) else none
  | ya => if joined && n == 0x1A17 then some (0, some vowelYa) else none
  | vowelYa => if n = 0x1A15 then some (0, none) else none
  | consonant =>
      if n = 0x2D7F then some (1, some linkedConsonant)
      else if joined && isTifinagh n then some (0, none)
      else none
  | linkedConsonant => if isTifinagh n then some (-1, none) else none
  | tone => if 0xA4F8 ≤ n ∧ n ≤ 0xA4FB then some (0, none) else none
  | orkhonI => if joined && n == 0x10C32 then some (0, none) else none
  | subscript => if n = 0x17D2 then some (-1, none) else none

end Ligature

end InlineEval.Text
