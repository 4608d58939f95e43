import InlineEval.Annotation.Basic

/-!
# Annotations by line

A list of annotations comes in any order. Gathered by the lines that they are
addressed to, the lines ascend, and the annotations of a line keep the order of
the list.
-/

namespace InlineEval.Annotation

/-- The annotations of each line that has some. -/
structure ByLine where
  entries : List (Nat × List Annotation)
  ascending : entries.Pairwise fun earlier later => earlier.1 < later.1

namespace ByLine

/-- One more annotation comes last on its line, or makes an entry of its own. -/
def insert (note : Annotation) : List (Nat × List Annotation) → List (Nat × List Annotation)
  | [] => [(note.line, [note])]
  | (line, notes) :: rest =>
      if note.line < line then (note.line, [note]) :: (line, notes) :: rest
      else if note.line = line then (line, notes ++ [note]) :: rest
      else (line, notes) :: insert note rest

theorem mem_map_insert {note : Annotation} {entries : List (Nat × List Annotation)} {i : Nat} :
    i ∈ (insert note entries).map (·.1) ↔ i = note.line ∨ i ∈ entries.map (·.1) := by
  induction entries with
  | nil => exact List.mem_singleton.trans (or_iff_left List.not_mem_nil).symm
  | cons first rest ih =>
      obtain ⟨line, notes⟩ := first
      unfold insert
      split
      next => exact List.mem_cons
      next =>
        split
        next hsame => simp [hsame]
        next =>
          rw [List.map_cons, List.mem_cons, ih, List.map_cons, List.mem_cons]
          exact or_left_comm

theorem ascending_insert (note : Annotation) {entries : List (Nat × List Annotation)}
    (hascending : entries.Pairwise fun earlier later => earlier.1 < later.1) :
    (insert note entries).Pairwise fun earlier later => earlier.1 < later.1 := by
  rw [← List.pairwise_map (R := (· < ·))] at hascending ⊢
  induction entries with
  | nil => exact List.pairwise_singleton _ _
  | cons first rest ih =>
      obtain ⟨line, notes⟩ := first
      obtain ⟨hfirst, hrest⟩ := List.pairwise_cons.mp hascending
      unfold insert
      split
      next hbefore =>
        refine List.pairwise_cons.mpr ⟨fun i hi => ?_, hascending⟩
        rcases List.mem_cons.mp hi with rfl | hi
        · exact hbefore
        · exact Nat.lt_trans hbefore (hfirst i hi)
      next hnot =>
        split
        next => exact hascending
        next hother =>
          refine List.pairwise_cons.mpr ⟨fun i hi => ?_, ih hrest⟩
          rcases mem_map_insert.mp hi with rfl | hi
          · exact Nat.lt_of_le_of_ne (Nat.le_of_not_lt hnot) (Ne.symm hother)
          · exact hfirst i hi

def empty : ByLine := ⟨[], .nil⟩

def push (byLine : ByLine) (note : Annotation) : ByLine :=
  ⟨insert note byLine.entries, ascending_insert note byLine.ascending⟩

def ofList (annotations : List Annotation) : ByLine := annotations.foldl push empty

/-- The annotations of a line, if it has any. -/
def get? (byLine : ByLine) (i : Nat) : Option (List Annotation) := byLine.entries.lookup i

/-- The lines that have annotations. -/
def lines (byLine : ByLine) : List Nat := byLine.entries.map (·.1)

theorem mem_lines_push {byLine : ByLine} {note : Annotation} {i : Nat} :
    i ∈ (byLine.push note).lines ↔ i = note.line ∨ i ∈ byLine.lines := mem_map_insert

theorem ofList_concat (annotations : List Annotation) (note : Annotation) :
    ofList (annotations ++ [note]) = (ofList annotations).push note := by
  simp [ofList]

end ByLine

end InlineEval.Annotation
