import InlineEval.Text.Basic
import InlineEval.Text.Emoji
import InlineEval.Text.Ligature
import InlineEval.Text.Wide

/-!
# Display width

The number of terminal columns that a text takes. A character takes two
columns if its East Asian width is wide or fullwidth, none if it is drawn into
its neighbour or not at all, and one otherwise, control characters included.
Sequences of emoji take two columns together, as do an emoji and what modifies
it, and letters that merge take the columns of one.

What a character takes depends on what stands behind it, so a text is measured
from its end: each character adds its columns and says what the one before it
has to know.
-/

namespace InlineEval.Text

/-- Columns of a character that stands alone. -/
def charWidth (c : Char) : Nat :=
  let n := c.toNat
  if n ≤ 0xA0 then 1
  else if n = 0x17A4 then 2
  else if n = 0x17D8 then 3
  else if isZeroWidth c then 0
  else if isWide c then 2
  else 1

/-- What stands behind a character, as far as that changes its columns. -/
inductive Following where
  | plain
  /-- A selector, of the coloured form or of the textual one. -/
  | selector (coloured : Bool)
  /-- The end of a ligature, with a joiner and selectors before it or not. -/
  | ligature (kind : Ligature) (joined coloured textual : Bool)
  | skinTone
  /-- Letters of flags; if `joined` holds, a joiner and an emoji follow. -/
  | flag (joined : Bool) (letters : Nat)
  | emoji
  /-- A joiner and an emoji, with the selector of the coloured form or not. -/
  | joined (coloured : Bool)
  /-- The frame of a key, a joiner and an emoji, with the selector or not. -/
  | key (coloured : Bool)
  /-- The end of a tag, a joiner and an emoji: letters, with digits before
  them. -/
  | tag (letters digits : Nat)
  deriving DecidableEq, Repr

namespace Following

def asksColoured : Following → Bool
  | selector coloured => coloured
  | ligature _ _ coloured _ => coloured
  | joined coloured => coloured
  | key coloured => coloured
  | _ => false

def asksTextual : Following → Bool
  | selector coloured => !coloured
  | ligature _ _ _ textual => textual
  | _ => false

/-- A selector of the coloured form that selects nothing. It breaks a sequence
of emoji, and a ligature it does not. -/
def dropColoured : Following → Following
  | selector true => plain
  | joined true => plain
  | key true => plain
  | ligature kind linked _ textual => ligature kind linked false textual
  | following => following

def dropTextual : Following → Following
  | selector false => plain
  | ligature kind linked coloured _ => ligature kind linked coloured false
  | following => following

def addColoured : Following → Following
  | ligature kind linked _ textual => ligature kind linked true textual
  | joined _ => joined true
  | key _ => key true
  | _ => selector true

def addTextual : Following → Following
  | ligature kind linked coloured _ => ligature kind linked coloured true
  | _ => selector false

/-- In front of a joiner a single letter of a flag is no emoji; two letters
and all other emoji are. -/
def isEmoji : Following → Bool
  | emoji => true
  | skinTone => true
  | flag _ letters => 2 ≤ letters
  | _ => false

/-- Columns that one more letter in front of some letters of flags adds.
Letters pair up from the left. In front of a joiner and an emoji the last pair
is joined to that emoji and takes no columns; an odd letter is not joined and
takes one. -/
def flagColumns (joined : Bool) (letters : Nat) : Int :=
  if !joined || letters == 0 then 1 else if letters % 2 = 1 then -1 else 3

/-- The tag of a flag is complete: a region of three digits, or three to six
letters. -/
def isTag (letters digits : Nat) : Bool := digits == 3 || (digits == 0 && 3 ≤ letters)

/-- A character in front of the tag of a flag. A tag has at most six letters,
and at most four with digits before them. -/
def extendTag (letters digits : Nat) (c : Char) : Option (Int × Following) :=
  if isTagLetter c && digits == 0 && letters < 6 then some (0, tag (letters + 1) 0)
  else if isTagDigit c && letters ≤ 4 && digits < 3 then some (0, tag letters (digits + 1))
  else if c == taggedFlag && isTag letters digits then some (0, emoji)
  else none

def extendJoined (c : Char) : Option (Int × Following) :=
  if c = keycap then some (0, key false)
  else if isFlagLetter c then some (flagColumns true 0, flag true 1)
  else if isSkinTone c then some (0, skinTone)
  else if c = tagEnd then some (0, tag 0 0)
  else if isColoured c then some (0, emoji)
  else none

/-- A character that forms one sequence with what stands behind it. -/
def extend (following : Following) (c : Char) : Option (Int × Following) :=
  if following.isEmoji ∧ c = joiner then some (0, joined false)
  else match following with
    | ligature kind linked coloured textual =>
        if kind.admitsJoiner ∧ c = joiner then some (0, ligature kind true coloured textual)
        else if kind.admitsJoiner ∧ isIgnorableMark c then some (0, following)
        else (kind.extend linked c).map fun (columns, next) =>
          (columns, (next.map (ligature · false false false)).getD plain)
    | skinTone => if takesSkinTone c then some (0, emoji) else none
    | flag linked letters =>
        if isFlagLetter c then some (flagColumns linked letters, flag linked (letters + 1))
        else none
    | joined false => extendJoined c
    | tag letters digits => extendTag letters digits c
    | _ => none

end Following

/-- Columns of a character that forms no sequence with what stands behind it,
and what it is for the character before it. -/
def widthAlone (c : Char) : Int × Following :=
  if c.toNat ≤ 0xA0 then (1, .plain)
  else if c = colouredSelector then (0, .selector true)
  else if c = textualSelector then (0, .selector false)
  else if isSkinTone c then (2, .skinTone)
  else if isFlagLetter c then (1, .flag false 1)
  else if isColoured c then (2, .emoji)
  else match Ligature.ofChar? c with
    | some kind => (1, .ligature kind false false false)
    | none => (charWidth c, .plain)

/-- Columns that a character adds, and what it is for the one before it. -/
def widthBefore (following : Following) (c : Char) : Int × Following :=
  if following.asksColoured ∧ hasColouredForm c then
    match following with
    | .joined _ => (0, .emoji)
    | .key _ => (0, .emoji)
    | _ => (2, .emoji)
  else
    let following := following.dropColoured
    if following = .plain ∨ c.toNat ≤ 0xA0 then widthAlone c
    else if c = colouredSelector then (0, following.addColoured)
    else if c = textualSelector then (0, following.addTextual)
    else if following.asksTextual ∧ hasNarrowForm c then (1, .plain)
    else (following.dropTextual.extend c).getD (widthAlone c)

/-- Columns that a text takes on a terminal. -/
def width (t : Text) : Nat :=
  let (columns, _) := t.reverse.foldl
    (fun (before : Int × Following) c =>
      let (added, following) := widthBefore before.2 c
      (before.1 + added, following))
    (0, .plain)
  columns.toNat

end InlineEval.Text
