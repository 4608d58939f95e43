/-!
# Text

Source lines, messages and printed output are lists of characters, so that
cutting, joining and searching are operations on lists and every function on
text is a recursion on it. White space is the Unicode property of that name,
which knows more characters than a keyboard types and leaves out the
information separators and the zero-width ones.
-/

namespace InlineEval

/-- A text is the list of its characters. -/
abbrev Text := List Char

namespace Text

/-- The Unicode property `White_Space`. -/
def isSpace (c : Char) : Bool :=
  let n := c.toNat
  (0x09 ≤ n && n ≤ 0x0D) || n == 0x20 || n == 0x85 || n == 0xA0 || n == 0x1680 ||
    (0x2000 ≤ n && n ≤ 0x200A) || n == 0x2028 || n == 0x2029 || n == 0x202F ||
    n == 0x205F || n == 0x3000

/-- A text of white space only; the empty text is blank. -/
def isBlank (t : Text) : Bool := t.all isSpace

def trimStart (t : Text) : Text := t.dropWhile isSpace

def trimEnd (t : Text) : Text := (t.reverse.dropWhile isSpace).reverse

/-- The text without the white space around it. -/
def trim (t : Text) : Text := trimEnd (trimStart t)

/-- One more element in front of the first of several pieces, or a separator
in front of them. -/
def splitStep {α : Type} [DecidableEq α] (separator c : α) : List (List α) → List (List α)
  | [] => if c = separator then [[], []] else [[c]]
  | piece :: pieces =>
      if c = separator then [] :: piece :: pieces else (c :: piece) :: pieces

/-- The pieces between the occurrences of a separator, in a text or any other
list. There is always one piece more than there are separators. -/
def split {α : Type} [DecidableEq α] (separator : α) (t : List α) : List (List α) :=
  t.foldr (splitStep separator) [[]]

/-- The texts before and after the first occurrence of a separator. -/
def splitOnce (separator : Char) (t : Text) : Option (Text × Text) :=
  match t.dropWhile (· ≠ separator) with
  | [] => none
  | _ :: after => some (t.takeWhile (· ≠ separator), after)

def join (separator : Text) (ts : List Text) : Text := separator.intercalate ts

/-- Lines joined by newlines, without one at the end. -/
def joinLines (lines : List Text) : Text := join ['\n'] lines

/-- Whether `needle` occurs in a text; the empty text occurs everywhere. -/
def occurs (needle : Text) : Text → Bool
  | [] => needle.isEmpty
  | c :: rest => needle.isPrefixOf (c :: rest) || occurs needle rest

/-- The text after a given beginning. -/
def dropPrefix? (start : Text) (t : Text) : Option Text :=
  if start.isPrefixOf t then some (t.drop start.length) else none

/-- The last character is `c`. -/
def endsWith (c : Char) (t : Text) : Bool := t.getLast? == some c

/-- The length of a text in UTF-8. -/
def byteSize (t : Text) : Nat := t.foldr (fun c size => c.utf8Size + size) 0

/-- Letters of the basic Latin alphabet in lower case, all else unchanged. -/
def lower (t : Text) : Text := t.map Char.toLower

/-- The decimal digits of a number. -/
def ofNat (n : Nat) : Text := Nat.toDigits 10 n

/-- A text repeated. -/
def blanks (n : Nat) : Text := List.replicate n ' '

theorem occurs_iff {needle t : Text} : occurs needle t = true ↔ needle <:+: t := by
  induction t with
  | nil => simp [occurs]
  | cons c rest ih => simp [occurs, ih, List.infix_cons_iff]

@[simp]
theorem split_nil {α : Type} [DecidableEq α] (separator : α) : split separator [] = [[]] := rfl

@[simp]
theorem split_cons {α : Type} [DecidableEq α] (separator c : α) (t : List α) :
    split separator (c :: t) = splitStep separator c (split separator t) := rfl

theorem split_ne_nil {α : Type} [DecidableEq α] (separator : α) (t : List α) :
    split separator t ≠ [] := by
  cases t with
  | nil => simp
  | cons c t =>
      rw [split_cons]
      cases split separator t <;> simp only [splitStep] <;> split <;> simp

@[simp]
theorem byteSize_nil : byteSize [] = 0 := rfl

@[simp]
theorem byteSize_cons (c : Char) (t : Text) :
    byteSize (c :: t) = c.utf8Size + byteSize t := rfl

theorem isBlank_iff {t : Text} : isBlank t = true ↔ ∀ c ∈ t, isSpace c = true := by
  simp [isBlank]

end Text

end InlineEval
