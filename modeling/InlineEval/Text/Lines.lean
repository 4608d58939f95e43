import InlineEval.Text.Basic

/-!
# Lines of a stream

The output of a process and the contents of a settings file are read as lines
that a newline ends. The newline of the last line may be missing, so text that
ends in one has no empty line after it. A carriage return belongs to the end
of a line only when the newline follows it.

This differs on purpose from `Document.ofText`, for which a newline separates
two lines and the text after the last one is a line too.
-/

namespace InlineEval.Text

def dropCarriageReturn (line : Text) : Text :=
  if endsWith '\r' line then line.dropLast else line

/-- The pieces of a text between newlines as lines: all but the last were
ended by a newline, and an empty last piece is no line. -/
def endedLines : List Text → List Text
  | [] => []
  | [unended] => if unended.isEmpty then [] else [unended]
  | line :: rest => dropCarriageReturn line :: endedLines rest

def lines (t : Text) : List Text := endedLines (split '\n' t)

end InlineEval.Text
