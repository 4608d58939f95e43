import InlineEval.Annotation.ByLine
import Mathlib.Data.List.Induction

/-! # What annotations by line hold

Gathering a list of annotations loses nothing, and puts nothing out of order
on its line: what is found under a line is what the list says about it.
-/

namespace InlineEval.Annotation.ByLine

theorem lookup_cons_eq (line : Nat) (notes : List Annotation)
    (rest : List (Nat × List Annotation)) (i : Nat) :
    ((line, notes) :: rest).lookup i = if i = line then some notes else rest.lookup i := by
  rw [List.lookup_cons]
  by_cases hi : i = line
  · rw [beq_iff_eq.mpr hi, if_pos hi]
  · rw [beq_false_of_ne hi, if_neg hi]

/-- Nothing is found under a line that comes before all others. -/
theorem lookup_eq_none_of_lt {entries : List (Nat × List Annotation)} {i : Nat}
    (hbefore : ∀ entry ∈ entries, i < entry.1) : entries.lookup i = none := by
  refine List.lookup_eq_none_iff.mpr fun entry hentry => bne_iff_ne.mpr ?_
  exact Nat.ne_of_lt (hbefore entry hentry)

/-- What is found under a line changes only if the annotation is addressed to
it. No later entry can stand in the way, because the lines ascend. -/
theorem lookup_insert (note : Annotation) {entries : List (Nat × List Annotation)}
    (hascending : entries.Pairwise fun earlier later => earlier.1 < later.1) (i : Nat) :
    (insert note entries).lookup i =
      if i = note.line then some ((entries.lookup i).getD [] ++ [note]) else entries.lookup i := by
  induction entries with
  | nil =>
      rw [insert, lookup_cons_eq]
      rfl
  | cons first rest ih =>
      obtain ⟨line, notes⟩ := first
      obtain ⟨hfirst, hrest⟩ := List.pairwise_cons.mp hascending
      unfold insert
      split
      next hbefore =>
        rw [lookup_cons_eq note.line]
        by_cases hi : i = note.line
        · have hnone : ((line, notes) :: rest).lookup note.line = none := by
            refine lookup_eq_none_of_lt (List.forall_mem_cons.mpr ⟨hbefore, fun entry hentry => ?_⟩)
            exact Nat.lt_trans hbefore (hfirst entry hentry)
          rw [if_pos hi, if_pos hi, hi, hnone]
          rfl
        · rw [if_neg hi, if_neg hi]
      next =>
        split
        next hsame =>
          rw [lookup_cons_eq, lookup_cons_eq, hsame]
          by_cases hi : i = line
          · rw [if_pos hi, if_pos hi, if_pos hi, Option.getD_some]
          · rw [if_neg hi, if_neg hi, if_neg hi]
        next hother =>
          rw [lookup_cons_eq, lookup_cons_eq, ih hrest]
          by_cases hi : i = line
          · rw [if_pos hi, if_pos hi, if_neg (hi ▸ Ne.symm hother)]
          · rw [if_neg hi, if_neg hi]

theorem get?_push (byLine : ByLine) (note : Annotation) (i : Nat) :
    (byLine.push note).get? i =
      if i = note.line then some ((byLine.get? i).getD [] ++ [note]) else byLine.get? i :=
  lookup_insert note byLine.ascending i

theorem getD_ite_nil {α : Type} (l : List α) : (if l = [] then none else some l).getD [] = l := by
  split
  next hnone => exact hnone.symm
  next => rfl

/-- Under a line stand the annotations that are addressed to it, in the order of
the list, unless there are none. -/
theorem get?_ofList (annotations : List Annotation) (i : Nat) :
    (ofList annotations).get? i =
      if annotations.filter (·.line == i) = [] then none
      else some (annotations.filter (·.line == i)) := by
  induction annotations using List.reverseRecOn with
  | nil => rfl
  | append_singleton annotations note ih =>
      rw [ofList_concat, get?_push, ih, List.filter_append]
      by_cases hi : i = note.line
      · have hsame : [note].filter (·.line == i) = [note] := by simp [hi]
        rw [if_pos hi, hsame, getD_ite_nil, if_neg (by simp)]
      · have hother : [note].filter (·.line == i) = [] := by simp [Ne.symm hi]
        rw [if_neg hi, hother, List.append_nil]

theorem mem_lines_ofList {annotations : List Annotation} {i : Nat} :
    i ∈ (ofList annotations).lines ↔ ∃ note ∈ annotations, note.line = i := by
  induction annotations using List.reverseRecOn with
  | nil => simp [ofList, lines, empty]
  | append_singleton annotations note ih =>
      rw [ofList_concat, mem_lines_push, ih]
      simp only [List.mem_append, List.mem_singleton, or_and_right, exists_or, exists_eq_left]
      exact or_comm.trans (or_congr_right eq_comm)

end InlineEval.Annotation.ByLine
