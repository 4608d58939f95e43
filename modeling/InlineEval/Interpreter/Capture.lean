import InlineEval.Outcome.Basic

/-!
# Captured output

The bootstrap script captures what a program prints and reports it without the
white space around it. Of many lines it reports the first ones and how many
more there were, whereas the log of single calls of `print` is reported whole.
-/

namespace InlineEval.Interpreter

open Text

/-- White space as the script strips it. The information separators belong to
it, which are no white space anywhere else. -/
def isStripped (c : Char) : Bool := isSpace c || (0x1C ≤ c.toNat && c.toNat ≤ 0x1F)

def strip (t : Text) : Text := ((t.dropWhile isStripped).reverse.dropWhile isStripped).reverse

/-- The most lines of an output that are reported as they are. -/
def shownLines : Nat := 10

/-- What stands for the lines that are left out. -/
def elision (more : Nat) : Text := "... (".toList ++ ofNat more ++ " more lines)".toList

/-- What is reported of captured output; nothing is reported of white space. -/
def reportedOutput? (captured : Text) : Option Text :=
  let text := strip captured
  if text.isEmpty then none
  else
    let lines := split '\n' text
    if shownLines < lines.length then
      some (joinLines (lines.take shownLines ++ [elision (lines.length - shownLines)]))
    else some text

/-- The log of single calls, which numbers what they printed. -/
def printLog (printed : List Text) : List PrintEntry :=
  printed.zipIdx.map fun entry => ⟨UInt64.ofNat entry.2, entry.1⟩

theorem map_text_printLog (printed : List Text) : (printLog printed).map (·.text) = printed := by
  rw [printLog, List.map_map]
  exact List.zipIdx_map_fst 0 printed

end InlineEval.Interpreter
