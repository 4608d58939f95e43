import InlineEval.Annotation.ByLine
import InlineEval.Source.Document
import InlineEval.Text.ControlSequence
import InlineEval.Text.Width

/-!
# Annotated listings

The listing shows a document line by line, each with its number, and the
annotations of a line behind it. Annotations start in one column, which is the
first one that no annotated line reaches into. How many columns a text takes
is a parameter, because nothing about the listing depends on it but that.
-/

namespace InlineEval

open Text

def Style.colour : Style → Text
  | value => "32".toList
  | error => "31".toList
  | waiting => "33".toList
  | threading => "35".toList
  | performance => "36".toList

/-- A text in the colour of a style, or as it is. -/
def paint (text : Text) (style : Style) (colour : Bool) : Text :=
  if colour then escapeSequence style.colour ++ text ++ escapeSequence "39".toList else text

namespace Listing

/-- The annotations that stand on lines of the document, by their lines. -/
def gather (doc : Document) (annotations : List Annotation) : Annotation.ByLine :=
  .ofList (annotations.filter fun note => decide (note.line < doc.length))

/-- The columns that the widest annotated line takes. -/
def column (width : Text → Nat) (doc : Document) (byLine : Annotation.ByLine) : Nat :=
  (byLine.lines.filterMap fun i => (doc.line? i).map width).foldl max 0

/-- A number, with blanks before it up to a width. -/
def alignRight (width n : Nat) : Text :=
  let digits := ofNat n
  blanks (width - digits.length) ++ digits

def lineNumber (total i : Nat) (colour : Bool) : Text :=
  let number := alignRight (ofNat (max total 1)).length (i + 1)
  if colour then escapeSequence ['2'] ++ number ++ escapeSequence ['0'] else number

/-- What stands behind a source line: blanks up to the column, and its
annotations one after another. -/
def trailer (padding : Nat) (notes : Option (List Annotation)) (colour : Bool) : Text :=
  match notes with
  | some notes => blanks padding ++ notes.flatMap fun note => paint note.text note.style colour
  | none => []

def renderLine (width : Text → Nat) (colour : Bool) (total column i : Nat) (line : Text)
    (notes : Option (List Annotation)) : Text :=
  lineNumber total i colour ++ " | ".toList ++ line ++
    trailer (column - width line) notes colour

def renderLines (width : Text → Nat) (colour : Bool) (doc : Document)
    (annotations : List Annotation) : List Text :=
  let byLine := gather doc annotations
  let first := column width doc byLine
  doc.lines.zipIdx.map fun (line, i) =>
    renderLine width colour doc.length first i line (byLine.get? i)

/-- The listing of a document, for a given measure of texts. -/
def renderBy (width : Text → Nat) (colour : Bool) (doc : Document)
    (annotations : List Annotation) : Text :=
  (renderLines width colour doc annotations).flatMap (· ++ ['\n'])

/-- The listing of a document. -/
def render (colour : Bool) (doc : Document) (annotations : List Annotation) : Text :=
  renderBy Text.width colour doc annotations

theorem renderLines_length (width : Text → Nat) (colour : Bool) (doc : Document)
    (annotations : List Annotation) :
    (renderLines width colour doc annotations).length = doc.length := by
  simp [renderLines, Document.length]

end Listing

end InlineEval
