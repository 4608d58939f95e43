import InlineEval.Segment.Basic
import InlineEval.Source.Marker
import InlineEval.Source.Mode
import InlineEval.Source.Scanner
import InlineEval.Source.Statement

/-!
# Drafts of segments

A draft is a segment that may still grow. It has at least one line. Blank
lines and comments are held back until a later line of the same segment shows
that they stand inside it. The one question about the next line is whether the
draft accepts it; if not, the draft is closed and the line starts afresh.
-/

namespace InlineEval

open Text

/-- A segment in the making. -/
structure Draft where
  /-- The index of the first line. -/
  start : Nat
  /-- The lines so far, the first one included. -/
  lines : List Text
  /-- Lines after those, of which it is open whether they belong to it. -/
  held : List Text
  /-- The indentation of the compound statement that the draft holds. -/
  base : Option Nat
  /-- What the lines so far leave unfinished. -/
  scan : Scanner
  deriving DecidableEq, Repr

/-- A blank line, or a comment without a marker: no segment starts with one. -/
def isSkippable (markers : MarkerSet) (line : Text) : Bool :=
  isBlank line || ((trim line).head? == some '#' && !markers.marks line)

namespace Draft

/-- A draft of one line. -/
def begin (i : Nat) (base : Option Nat) (line : Text) : Draft :=
  ⟨i, [line], [], base, Scanner.fresh.feed line⟩

/-- The lines held back belong to the segment, and so does the line after
them. -/
def push (draft : Draft) (line : Text) : Draft :=
  { draft with
    lines := draft.lines ++ draft.held ++ [line]
    held := []
    scan := draft.scan.feed line }

/-- A line is held back. -/
def hold (draft : Draft) (line : Text) : Draft := { draft with held := draft.held ++ [line] }

/-- The segment that the lines so far form; lines held back stay outside. -/
def close (draft : Draft) : Segment := Segment.ofLines draft.start draft.lines

def onlyDecorators (draft : Draft) : Bool :=
  draft.lines.all fun line =>
    isBlank line || (trimStart line).head?.any fun c => c == '@' || c == '#'

/-- The draft with the next line of the document, or nothing if the line does
not belong to it.

An unfinished statement takes any line. Blank lines and comments are held. A
compound statement takes what is indented deeper than its header and its own
further clauses. Decorators take the header of their definition. In explicit
mode a marked line stands alone, and otherwise a draft grows until a line
starts at the margin. -/
def accept (mode : Mode) (markers : MarkerSet) (draft : Draft) (line : Text) : Option Draft :=
  if draft.scan.continues then some (draft.push line)
  else if isSkippable markers line then some (draft.hold line)
  else match draft.base with
    | some base =>
        if base < indentation line ∨ (indentation line = base ∧ isClause (trim line)) then
          some (draft.push line)
        else none
    | none =>
        if opensCompound (trim line) then
          if draft.onlyDecorators then
            some { draft.push line with base := some (indentation line) }
          else none
        else if mode = .explicit ∧ markers.marks line then none
        else if indentation line = 0 then none
        else some (draft.push line)

@[simp]
theorem begin_lines (i : Nat) (base : Option Nat) (line : Text) :
    (begin i base line).lines = [line] := rfl

@[simp]
theorem push_lines (draft : Draft) (line : Text) :
    (draft.push line).lines = draft.lines ++ draft.held ++ [line] := rfl

@[simp]
theorem hold_lines (draft : Draft) (line : Text) : (draft.hold line).lines = draft.lines := rfl

@[simp]
theorem push_held (draft : Draft) (line : Text) : (draft.push line).held = [] := rfl

@[simp]
theorem hold_held (draft : Draft) (line : Text) :
    (draft.hold line).held = draft.held ++ [line] := rfl

@[simp]
theorem push_start (draft : Draft) (line : Text) : (draft.push line).start = draft.start := rfl

@[simp]
theorem hold_start (draft : Draft) (line : Text) : (draft.hold line).start = draft.start := rfl

/-- No line is lost between the lines of a draft and those held back. -/
theorem accept_lines {mode : Mode} {markers : MarkerSet} {draft next : Draft} {line : Text}
    (h : draft.accept mode markers line = some next) :
    next.start = draft.start ∧ next.lines ++ next.held = draft.lines ++ draft.held ++ [line] := by
  unfold accept at h
  split at h
  · cases h
    simp
  · split at h
    · cases h
      simp
    · split at h
      · split at h <;> cases h
        simp
      · split at h
        · split at h <;> cases h
          simp
        · split at h
          · cases h
          · split at h <;> cases h
            simp

end Draft

end InlineEval
