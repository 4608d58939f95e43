import InlineEval.Source.LineSet
import InlineEval.Source.Marker
import InlineEval.Text.Lines

/-!
# Documents

The source under evaluation, as lines counted from zero. A newline separates
two lines, so a text that ends in one has an empty last line, and only the
empty text has no line at all.
-/

namespace InlineEval

open Text

/-- Source text as a list of lines. -/
structure Document where
  lines : List Text
  deriving DecidableEq, Repr

namespace Document

/-- The lines of a text. A carriage return before a newline or at the very end
is part of the line's end. -/
def ofText (t : Text) : Document :=
  if t.isEmpty then ⟨[]⟩ else ⟨(split '\n' t).map dropCarriageReturn⟩

def length (doc : Document) : Nat := doc.lines.length

def isEmpty (doc : Document) : Bool := doc.lines.isEmpty

def line? (doc : Document) (i : Nat) : Option Text := doc.lines[i]?

/-- Ascending indexes, from `i` on, of the marked lines in a list. -/
def markedFrom (markers : MarkerSet) (i : Nat) : List Text → List Nat
  | [] => []
  | line :: rest =>
      if markers.marks line then i :: markedFrom markers (i + 1) rest
      else markedFrom markers (i + 1) rest

theorem le_of_mem_markedFrom {markers : MarkerSet} {i k : Nat} {lines : List Text}
    (h : k ∈ markedFrom markers i lines) : i ≤ k := by
  induction lines generalizing i with
  | nil => simp [markedFrom] at h
  | cons line rest ih =>
      simp only [markedFrom] at h
      split at h
      · rcases List.mem_cons.1 h with rfl | h
        · exact Nat.le_refl _
        · exact Nat.le_of_succ_le (ih h)
      · exact Nat.le_of_succ_le (ih h)

theorem markedFrom_ascending (markers : MarkerSet) (i : Nat) (lines : List Text) :
    (markedFrom markers i lines).Pairwise (· < ·) := by
  induction lines generalizing i with
  | nil => simp [markedFrom]
  | cons line rest ih =>
      simp only [markedFrom]
      split
      · exact List.pairwise_cons.2 ⟨fun k hk => le_of_mem_markedFrom hk, ih (i + 1)⟩
      · exact ih (i + 1)

def marked (doc : Document) (markers : MarkerSet) : LineSet :=
  ⟨markedFrom markers 0 doc.lines, markedFrom_ascending markers 0 doc.lines⟩

theorem mem_markedFrom {markers : MarkerSet} {i k : Nat} {lines : List Text} :
    k ∈ markedFrom markers i lines ↔
      i ≤ k ∧ ∃ line, lines[k - i]? = some line ∧ markers.marks line = true := by
  induction lines generalizing i with
  | nil => simp [markedFrom]
  | cons head rest ih =>
      by_cases hk : k = i
      · subst hk
        have hnot : k ∉ markedFrom markers (k + 1) rest := fun h => by
          have := le_of_mem_markedFrom h
          omega
        simp only [markedFrom]
        split <;> simp_all
      · have hstep : k ∈ markedFrom markers i (head :: rest) ↔
            k ∈ markedFrom markers (i + 1) rest := by
          simp only [markedFrom]
          split <;> simp [hk]
        rw [hstep, ih]
        constructor
        · rintro ⟨hle, hline⟩
          refine ⟨by omega, ?_⟩
          rwa [show k - i = (k - (i + 1)) + 1 by omega, List.getElem?_cons_succ]
        · rintro ⟨hle, hline⟩
          refine ⟨by omega, ?_⟩
          rwa [show k - i = (k - (i + 1)) + 1 by omega, List.getElem?_cons_succ] at hline

theorem mem_marked {doc : Document} {markers : MarkerSet} {i : Nat} :
    i ∈ doc.marked markers ↔ ∃ line, doc.line? i = some line ∧ markers.marks line = true := by
  show i ∈ markedFrom markers 0 doc.lines ↔ ∃ line, doc.lines[i]? = some line ∧ _
  simpa using @mem_markedFrom markers 0 i doc.lines

end Document

end InlineEval
