import InlineEval.Annotation.Basic
import InlineEval.Outcome.Basic
import InlineEval.Segment.Basic
import InlineEval.Source.LineSet
import InlineEval.Source.Mode
import InlineEval.Source.Statement
import InlineEval.Text.Clip

/-!
# Placing annotations

The outcome of a segment is mapped to annotations on its lines. In explicit
mode each marked line shows what its kind asks for and what the outcome has to
offer; a failure is shown once, on the first marked line. In auto mode the
last line shows everything.
-/

namespace InlineEval

open Text

/-- A segment that ends before it starts has no lines to annotate. -/
structure InvertedRange where
  first : Nat
  last : Nat
  deriving DecidableEq, Repr

def InvertedRange.message (_ : InvertedRange) : Text :=
  "range start is greater than range end in BTreeSet".toList

namespace Annotation

/-- The last `count` variables with their values, each clipped to `width`. -/
def listing (bindings : Bindings) (count width : Nat) : Text :=
  join ", ".toList
    ((bindings.last count).map fun binding =>
      binding.1 ++ ": ".toList ++ clip binding.2 width)

def valueText (value : Text) : Text := " → ".toList ++ value

def remarkText (remark : Text) : Text := " // ".toList ++ remark

def printText (printed : Text) : Text := " ▶ ".toList ++ printed

/-- The latest variables, if there are any. -/
def listingText? (bindings : Bindings) (count width : Nat) : Option Text :=
  if bindings.isEmpty then none else some (remarkText (listing bindings count width))

/-- The entry of the print log that belongs to the last line of the output, or
else the last one. The output is counted in lines, because segments before
this one print again whenever it runs. -/
def lastPrinted? (outcome : Outcome) : Option PrintEntry :=
  match outcome.output with
  | some output =>
      (outcome.prints[(split '\n' output).length - 1]?).or outcome.prints.getLast?
  | none => outcome.prints.getLast?

/-- What an expression shows: the variable it names, else on the last line its
own value, else the latest variables. -/
def expressionText? (outcome : Outcome) (atEnd : Bool) (code : Text) : Option Text :=
  match outcome.bindings.get? code with
  | some value => some (valueText value)
  | none =>
      match outcome.expression, atEnd with
      | some value, true => some (valueText value)
      | _, _ => listingText? outcome.bindings 3 30

/-- What any other line shows: the variable before its first equals sign, else
the latest variables. -/
def otherText? (outcome : Outcome) (code : Text) : Option Text :=
  match (splitOnce '=' code).bind fun (left, _) =>
      (outcome.bindings.get? (trim left)).map (trim left, ·) with
  | some (name, value) => some (remarkText (name ++ ": ".toList ++ value))
  | none => listingText? outcome.bindings 3 30

/-- What a marked line shows after a success; `atEnd` tells the last line of
its segment. -/
def explicitText? (outcome : Outcome) (atEnd : Bool) (line : Text) : Option Text :=
  match LineKind.ofLine line with
  | .expression => expressionText? outcome atEnd (cleanLine line)
  | .printCall => (lastPrinted? outcome).map (printText ·.text)
  | .other => otherText? outcome (cleanLine line)

def explicit (outcome : Outcome) (segment : Segment) (marked : LineSet) :
    Except InvertedRange (List Annotation) :=
  if !marked.isEmpty && segment.last < segment.first then
    .error ⟨segment.first, segment.last⟩
  else
    let lines := marked.between segment.first segment.last
    match outcome.errorMessage with
    | some message => .ok (lines.head?.toList.map (error · message))
    | none => .ok (lines.filterMap fun i =>
        (segment.line? i).bind fun line =>
          (explicitText? outcome (i == segment.last) line).map (value i))

def auto (outcome : Outcome) (segment : Segment) : List Annotation :=
  match outcome.errorMessage with
  | some message => [error segment.last message]
  | none =>
      ((listingText? outcome.bindings 5 50).toList ++
        (outcome.expression.map valueText).toList ++
        (outcome.output.map printText).toList).map (value segment.last)

/-- The annotations of a segment, in the order of its lines. -/
def place (mode : Mode) (outcome : Outcome) (segment : Segment) (marked : LineSet) :
    Except InvertedRange (List Annotation) :=
  match mode with
  | .explicit => explicit outcome segment marked
  | .auto => .ok (auto outcome segment)

/-- A segment that does not end before it starts can always be annotated. -/
theorem place_ok {mode : Mode} {outcome : Outcome} {segment : Segment} {marked : LineSet}
    (h : segment.first ≤ segment.last) :
    ∃ annotations, place mode outcome segment marked = .ok annotations := by
  have hnot : ¬ segment.last < segment.first := by omega
  cases mode with
  | explicit =>
      simp only [place, explicit, hnot, decide_false, Bool.and_false, Bool.false_eq_true,
        if_false]
      split <;> exact ⟨_, rfl⟩
  | auto => exact ⟨_, rfl⟩

end Annotation

end InlineEval
