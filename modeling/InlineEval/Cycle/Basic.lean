import InlineEval.Annotation.Placement
import InlineEval.Cycle.Session
import InlineEval.Segment.Division
import InlineEval.Settings.Basic

/-!
# Cycles

A cycle evaluates a document once: it runs the segments in order, each after
all that succeeded before it, and collects their annotations. A cycle is given
as the conversation that it holds. It reports progress, asks for pauses, and
asks for calls of the interpreter; what it does next depends on the answers
and on nothing else. So a cycle can be suspended wherever it waits, and who
carries it out, against a clock or an interpreter of whatever kind, is left
open.
-/

namespace InlineEval

open Text

/-- A program to run for a segment. -/
structure Call where
  program : Text
  /-- The code of the segment, the last part of the program. -/
  code : Text
  /-- The last line of the segment. -/
  line : Nat
  deriving DecidableEq, Repr

/-- The outcome of a call, and the milliseconds that it took. -/
structure Answer where
  outcome : Outcome
  elapsed : Nat
  deriving DecidableEq, Repr

/-- What a cycle tells about itself on its way. -/
inductive Progress where
  /-- A segment is about to run, the one with number `index` of `total`. -/
  | started (index total : Nat) (segment : Segment) (waiting : Option Annotation)
  /-- A segment has run. -/
  | finished (segment : Segment) (annotations : List Annotation)
  deriving DecidableEq, Repr

/-- The rest of a cycle. -/
inductive Cycle where
  | report (progress : Progress) (next : Cycle)
  /-- Waits for a number of milliseconds. -/
  | pause (ms : Nat) (next : Cycle)
  /-- Waits for the answer to a call. -/
  | ask (call : Call) (next : Answer → Cycle)
  /-- The end, with all annotations of the document. -/
  | complete (annotations : List Annotation)
  /-- The end, because a segment cannot be annotated. -/
  | abort (cause : InvertedRange)

namespace Cycle

/-- What stays the same over a cycle. -/
structure Frame where
  settings : Settings
  marked : LineSet
  /-- The number of segments. -/
  total : Nat

/-- What has been done so far in a cycle. -/
structure Progressed where
  session : Session
  /-- Some segment has run. -/
  begun : Bool
  annotations : List Annotation

def Progressed.nothing : Progressed := ⟨.fresh, false, []⟩

def callFor (session : Session) (segment : Segment) : Call :=
  ⟨session.program segment.code, segment.code, segment.last⟩

/-- What a segment shows: the annotations of its outcome, and its time if it
succeeded and times are wanted. -/
def produced (frame : Frame) (segment : Segment) (answer : Answer) :
    Except InvertedRange (List Annotation) :=
  let placed := Annotation.place frame.settings.mode answer.outcome segment frame.marked
  placed.map fun found =>
    if frame.settings.showTimings && answer.outcome.success then
      found ++ [.timing segment.last answer.elapsed]
    else found

/-- The report that a segment is about to run. -/
def announcement (frame : Frame) (index : Nat) (segment : Segment) : Progress :=
  .started index frame.total segment
    (if frame.settings.showWaiting then some (.waiting segment.last) else none)

/-- The cycle of segments that are numbered as they are in the document.
Before any but the first one that runs there may be a pause. -/
def ofSegments (frame : Frame) : Progressed → List (Nat × Segment) → Cycle
  | past, [] => complete past.annotations
  | past, (index, segment) :: rest =>
      if segment.isBlank then ofSegments frame past rest
      else
        let turn := report (announcement frame index segment)
          (ask (callFor past.session segment) fun answer =>
            match produced frame segment answer with
            | .error cause => abort cause
            | .ok annotations =>
                report (.finished segment annotations)
                  (ofSegments frame
                    ⟨past.session.record segment answer.outcome, true,
                      past.annotations ++ annotations⟩ rest))
        if past.begun && frame.settings.pause != 0 then
          pause frame.settings.pause turn
        else turn

/-- The cycle that evaluates a text. In explicit mode a text without marked
lines has nothing to show, and nothing of it runs. -/
def ofText (settings : Settings) (text : Text) : Cycle :=
  let doc := Document.ofText text
  let marked := doc.marked settings.markers
  if settings.mode = .explicit ∧ marked.isEmpty then complete []
  else
    let segments := doc.segments settings.mode settings.markers
    ofSegments ⟨settings, marked, segments.length⟩ .nothing
      (segments.zipIdx.map Prod.swap)

/-- Carries a cycle out, by what a monad can do for it. -/
def perform {m : Type → Type} [Monad m] (tell : Progress → m Unit) (wait : Nat → m Unit)
    (call : Call → m Answer) : Cycle → m (Except InvertedRange (List Annotation))
  | report progress next => do
      tell progress
      perform tell wait call next
  | pause ms next => do
      wait ms
      perform tell wait call next
  | ask request next => do
      let answer ← call request
      perform tell wait call (next answer)
  | complete annotations => pure (.ok annotations)
  | abort cause => pure (.error cause)

end Cycle

end InlineEval
