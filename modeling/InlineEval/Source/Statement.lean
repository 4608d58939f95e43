import InlineEval.Source.Comment
import InlineEval.Text.Alphanumeric

/-!
# Shapes of statements

What can be told of a statement from one line of it: whether it opens a
compound statement, whether it goes on with another clause of one, what a
marked line asks to be shown, and whether a single line may be evaluated once
more as an expression.
-/

namespace InlineEval

open Text

/-- The number of bytes of white space at the start of a line. -/
def indentation (line : Text) : Nat := byteSize (line.takeWhile isSpace)

/-- Words that open a clause of a compound statement. -/
def compoundKeywords : List Text :=
  ["def".toList, "class".toList, "if".toList, "elif".toList, "else".toList, "for".toList,
    "while".toList, "with".toList, "try".toList, "except".toList, "finally".toList]

/-- Words that open a clause which goes on with the statement before it. -/
def clauseKeywords : List Text :=
  ["elif".toList, "else".toList, "except".toList, "finally".toList]

/-- The first word of a line of code, `async` not counted; empty if the line
starts with no word. -/
def firstWord (code : Text) : Text :=
  let code := match dropPrefix? "async ".toList code with
    | some rest => trimStart rest
    | none => code
  code.takeWhile isWordChar

/-- A header such as `def f():`, by its first word and its last character
before the comment. -/
def opensCompound (line : Text) : Bool :=
  let code := trimEnd (stripComment line)
  endsWith ':' code && compoundKeywords.contains (firstWord code)

def isClause (line : Text) : Bool :=
  opensCompound line && clauseKeywords.contains (firstWord line)

/-- What a marked line asks to be shown. -/
inductive LineKind where
  | expression
  | printCall
  | other
  deriving DecidableEq, Repr

def statementBeginnings : List Text :=
  ["def ".toList, "class ".toList, "import ".toList, "from ".toList, "print".toList]

/-- A line without an equals sign and without the beginning of a statement is
an expression; any other that mentions `print` shows what was printed. -/
def LineKind.ofLine (line : Text) : LineKind :=
  let code := cleanLine line
  if !code.isEmpty && !code.contains '=' && !statementBeginnings.any (·.isPrefixOf code) then
    .expression
  else if occurs "print".toList code then .printCall
  else .other

def statementKeywords : List Text :=
  ["def".toList, "class".toList, "if".toList, "elif".toList, "else".toList, "for".toList,
    "while".toList, "with".toList, "try".toList, "import".toList, "from".toList,
    "return".toList, "raise".toList, "assert".toList, "del".toList, "pass".toList,
    "break".toList, "continue".toList, "global".toList, "nonlocal".toList, "yield".toList,
    "async".toList]

/-- A statement keyword, alone or before white space. -/
def startsWithKeyword (line : Text) : Bool :=
  let rest := line.dropWhile isWordChar
  statementKeywords.contains (line.takeWhile isWordChar) &&
    (rest.isEmpty || rest.head?.any isSpace)

/-- A character that may start a name; only the basic Latin alphabet counts. -/
def isNameStart (c : Char) : Bool := c.isAlpha || c == '_'

def isNameChar (c : Char) : Bool := c.isAlphanum || c == '_'

/-- A name, an equals sign, and something other than a second one. -/
def isAssignment (line : Text) : Bool :=
  match line with
  | [] => false
  | c :: _ =>
      isNameStart c &&
        match trimStart (line.dropWhile isNameChar) with
        | '=' :: next :: _ => next != '='
        | _ => false

/-- The line of a segment that may be evaluated once more for its value: the
only line there is, if it neither opens a block, nor starts with a statement
keyword, nor assigns. -/
def trailingExpression? (code : Text) : Option Text :=
  let line := trim code
  if line.isEmpty || line.contains '\n' || opensCompound line then none
  else if startsWithKeyword line || isAssignment line then none
  else some line

theorem opensCompound_of_isClause {line : Text} (h : isClause line = true) :
    opensCompound line = true := by
  simp only [isClause, Bool.and_eq_true] at h
  exact h.1

end InlineEval
