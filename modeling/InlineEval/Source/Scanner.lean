import InlineEval.Source.Comment

/-!
# Unfinished statements

The scanner reads whole lines and remembers what the next line has to finish:
open brackets, a string in triple quotes, or a backslash at the end of the
line. Within a line a cursor moves over the characters one by one. After a
backslash in a string, and after the first of three quotation marks, it skips
the characters that belong to what it has just read.
-/

namespace InlineEval

open Text

/-- What the cursor of the scanner stands in. A string in single marks ends
with the line, one in triple marks does not. -/
inductive Context where
  | code
  | short (quote : Char)
  | long (quote : Char)
  | comment
  deriving DecidableEq, Repr

/-- The cursor of the scanner inside a line: the number of characters it still
skips, what it stands in, and the number of open brackets. -/
structure Cursor where
  skip : Nat
  context : Context
  depth : Nat
  deriving DecidableEq, Repr

def isOpening (c : Char) : Bool := c == '(' || c == '[' || c == '{'

def isClosing (c : Char) : Bool := c == ')' || c == ']' || c == '}'

namespace Cursor

/-- Over one character, with the characters after it in sight. A closing
bracket without an open one has no effect. -/
def step (cursor : Cursor) (c : Char) (rest : Text) : Cursor :=
  match cursor.skip with
  | n + 1 => { cursor with skip := n }
  | 0 =>
      match cursor.context with
      | .comment => cursor
      | .long quote =>
          if c = quote ∧ [quote, quote].isPrefixOf rest then
            { cursor with context := .code, skip := 2 }
          else if c = '\\' then { cursor with skip := 1 }
          else cursor
      | .short quote =>
          if c = '\\' then { cursor with skip := 1 }
          else if c = quote then { cursor with context := .code }
          else cursor
      | .code =>
          if c = '#' then { cursor with context := .comment }
          else if isQuote c then
            if [c, c].isPrefixOf rest then { cursor with context := .long c, skip := 2 }
            else { cursor with context := .short c }
          else if isOpening c then { cursor with depth := cursor.depth + 1 }
          else if isClosing c then { cursor with depth := cursor.depth - 1 }
          else cursor

/-- Over the rest of a line. -/
def run (cursor : Cursor) : Text → Cursor
  | [] => cursor
  | c :: rest => run (cursor.step c rest) rest

end Cursor

/-- What the lines read so far leave to be finished. -/
structure Scanner where
  depth : Nat
  /-- The mark of an open string in triple quotes. -/
  long : Option Char
  backslash : Bool
  deriving DecidableEq, Repr

namespace Scanner

/-- Nothing is unfinished. -/
def fresh : Scanner := ⟨0, none, false⟩

/-- The statement goes on in the next line. -/
def continues (scan : Scanner) : Bool := 0 < scan.depth || scan.long.isSome || scan.backslash

def cursor (scan : Scanner) : Cursor :=
  ⟨0, match scan.long with | some quote => .long quote | none => .code, scan.depth⟩

/-- One line. A backslash that ends it counts only in code: white space may
follow it, a comment or an open string may not. -/
def feed (scan : Scanner) (line : Text) : Scanner :=
  let final := scan.cursor.run line
  { depth := final.depth
    long := match final.context with | .long quote => some quote | _ => none
    backslash := final.context == .code && endsWith '\\' (trimEnd line) }

/-- Several lines in order. -/
def feedAll (scan : Scanner) (lines : List Text) : Scanner := lines.foldl feed scan

theorem feedAll_append (scan : Scanner) (first second : List Text) :
    scan.feedAll (first ++ second) = (scan.feedAll first).feedAll second :=
  List.foldl_append

end Scanner

end InlineEval
