import InlineEval.Segment.Draft
import InlineEval.Source.Document

/-!
# Dividing a document into segments

The lines of a document are offered one by one to the open draft. A line that
it does not accept closes it and starts afresh: a line to be skipped leaves no
draft behind, a marked line in explicit mode is a segment of its own, and any
other line begins a draft.
-/

namespace InlineEval

open Text

/-- What a line amounts to when no draft is open: the segments it completes,
and the draft it begins. -/
def startLine (mode : Mode) (markers : MarkerSet) (i : Nat) (line : Text) :
    List Segment × Option Draft :=
  if isSkippable markers line then ([], none)
  else if opensCompound (trim line) then
    ([], some (Draft.begin i (some (indentation line)) line))
  else if mode = .explicit ∧ markers.marks line then ([Segment.ofLines i [line]], none)
  else ([], some (Draft.begin i none line))

/-- One line of the document: the segments it completes, and the draft that
stays open after it. -/
def divideLine (mode : Mode) (markers : MarkerSet) (open? : Option Draft) (i : Nat)
    (line : Text) : List Segment × Option Draft :=
  match open? with
  | none => startLine mode markers i line
  | some draft =>
      match draft.accept mode markers line with
      | some next => ([], some next)
      | none =>
          let (segments, next) := startLine mode markers i line
          (draft.close :: segments, next)

/-- The segments of the lines from index `i` on, given the open draft. The end
of the document closes it. -/
def divideFrom (mode : Mode) (markers : MarkerSet) (open? : Option Draft) (i : Nat) :
    List Text → List Segment
  | [] => open?.toList.map Draft.close
  | line :: rest =>
      let (segments, next) := divideLine mode markers open? i line
      segments ++ divideFrom mode markers next (i + 1) rest

/-- The segments of a list of lines. -/
def divide (mode : Mode) (markers : MarkerSet) (lines : List Text) : List Segment :=
  divideFrom mode markers none 0 lines

def Document.segments (doc : Document) (mode : Mode) (markers : MarkerSet) : List Segment :=
  divide mode markers doc.lines

theorem divideFrom_cons (mode : Mode) (markers : MarkerSet) (open? : Option Draft) (i : Nat)
    (line : Text) (rest : List Text) :
    divideFrom mode markers open? i (line :: rest) =
      (divideLine mode markers open? i line).1 ++
        divideFrom mode markers (divideLine mode markers open? i line).2 (i + 1) rest := rfl

end InlineEval
