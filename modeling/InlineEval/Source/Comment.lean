import InlineEval.Text.Basic

/-!
# Comments of a line

A comment starts at the first `#` outside a string. Strings are read one line
at a time: a quotation mark opens one, the same mark closes it, and a
backslash inside takes the next character with it. Three marks in a row are no
special case here, only for the `Scanner`.
-/

namespace InlineEval

open Text

/-- Either of the marks that delimit a string. -/
def isQuote (c : Char) : Bool := c == '"' || c == '\''

/-- What surrounds the next character of a line. -/
inductive Surroundings where
  | code
  | string (quote : Char)
  /-- Inside a string, after a backslash. -/
  | escape (quote : Char)
  | comment
  deriving DecidableEq, Repr

namespace Surroundings

/-- What surrounds the character after this one. -/
def step : Surroundings → Char → Surroundings
  | code, c => if c = '#' then comment else if isQuote c then string c else code
  | string quote, c =>
      if c = '\\' then escape quote else if c = quote then code else string quote
  | escape quote, _ => string quote
  | comment, _ => comment

def atEnd (start : Surroundings) (line : Text) : Surroundings := line.foldl step start

end Surroundings

/-- The characters of a line that are in no comment. -/
def stripFrom (around : Surroundings) : Text → Text
  | [] => []
  | c :: rest =>
      match around.step c with
      | .comment => []
      | next => c :: stripFrom next rest

def stripComment (line : Text) : Text := stripFrom .code line

/-- A line without its comment and the white space around what remains. -/
def cleanLine (line : Text) : Text := trim (stripComment (trim line))

theorem stripFrom_prefix (around : Surroundings) (line : Text) :
    stripFrom around line <+: line := by
  induction line generalizing around with
  | nil => simp [stripFrom]
  | cons c rest ih =>
      simp only [stripFrom]
      split
      · exact List.nil_prefix
      · exact List.cons_prefix_cons.2 ⟨rfl, ih _⟩

theorem stripComment_prefix (line : Text) : stripComment line <+: line :=
  stripFrom_prefix .code line

end InlineEval
