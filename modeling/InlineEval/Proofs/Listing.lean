import InlineEval.Listing
import InlineEval.Proofs.Annotation.ByLine
import InlineEval.Proofs.Source.Numbered

/-! # Listings show every annotation

The listing of a document takes the annotations line by line. If they ascend
and stand on lines of the document, then it takes all of them, in their order.
-/

namespace InlineEval.Listing

open Text

/-- The annotations of one line, in their order. -/
def notes (annotations : List Annotation) (i : Nat) : List Annotation :=
  annotations.filter (·.line == i)

/-- Annotations behind the end of the document stand on none of its lines. -/
theorem notes_filter {doc : Document} {annotations : List Annotation} {i : Nat}
    (hi : i < doc.length) :
    notes (annotations.filter fun note => decide (note.line < doc.length)) i =
      notes annotations i := by
  rw [notes, List.filter_filter]
  refine List.filter_congr fun note _ => ?_
  by_cases hline : note.line = i
  · simp [hline, hi]
  · simp [hline]

/-- The annotations of a line of the document are found under it. -/
theorem get?_gather {doc : Document} (annotations : List Annotation) {i : Nat}
    (hi : i < doc.length) :
    (gather doc annotations).get? i =
      if notes annotations i = [] then none else some (notes annotations i) := by
  rw [gather, Annotation.ByLine.get?_ofList, ← notes, notes_filter hi]

/-- The annotations that the listing shows, from its first line to its last. -/
def shown (doc : Document) (annotations : List Annotation) : List Annotation :=
  doc.lines.zipIdx.flatMap fun (_, i) => ((gather doc annotations).get? i).getD []

/-- The annotations of the first lines. -/
theorem flatMap_notes_range {annotations : List Annotation}
    (hascending : annotations.Pairwise fun earlier later => earlier.line ≤ later.line) (n : Nat) :
    (List.range n).flatMap (notes annotations) =
      annotations.filter fun note => decide (note.line < n) := by
  induction n with
  | zero => simp
  | succ n ih =>
      have hsplit : ∀ i, decide (i < n + 1) = (decide (i < n) || i == n) := by
        intro i
        rw [Bool.eq_iff_iff]
        simp only [Bool.or_eq_true, decide_eq_true_eq, beq_iff_eq]
        omega
      have hbefore : ∀ i j, decide (i < n) = true → (j == n) = true → i < j := by
        intro i j hi hj
        simp only [decide_eq_true_eq, beq_iff_eq] at hi hj
        omega
      simp only [hsplit]
      rw [List.range_succ, List.flatMap_append, ih, List.flatMap_singleton, notes]
      exact (filter_or_of_before hbefore hascending).symm

/-- A listing leaves out nothing but what stands on no line of the document. -/
theorem shown_eq_filter (doc : Document) {annotations : List Annotation}
    (hascending : annotations.Pairwise fun earlier later => earlier.line ≤ later.line) :
    shown doc annotations = annotations.filter fun note => decide (note.line < doc.length) := by
  have hindexes : doc.lines.zipIdx.map Prod.snd = List.range doc.length := by
    rw [List.zipIdx_map_snd, ← List.range_eq_range', Document.length]
  have hfound : ∀ i ∈ List.range doc.length,
      ((gather doc annotations).get? i).getD [] = notes annotations i := by
    intro i hi
    rw [get?_gather annotations (List.mem_range.mp hi), Annotation.ByLine.getD_ite_nil]
  rw [← flatMap_notes_range hascending, List.flatMap_def, ← List.map_congr_left hfound,
    ← List.flatMap_def, ← hindexes, List.flatMap_map]
  rfl

/-- The rows of a listing are those of its lines. -/
theorem getElem?_renderLines (width : Text → Nat) (colour : Bool) {doc : Document}
    (annotations : List Annotation) {i : Nat} {line : Text} (hline : doc.line? i = some line) :
    (renderLines width colour doc annotations)[i]? =
      some (renderLine width colour doc.length (column width doc (gather doc annotations)) i line
        ((gather doc annotations).get? i)) := by
  rw [renderLines, List.getElem?_map, List.getElem?_zipIdx, Nat.zero_add, ← Document.line?, hline]
  rfl

/-- Each annotation on a line of the document is painted behind that line. -/
theorem paint_infix_renderLines (width : Text → Nat) (colour : Bool) {doc : Document}
    {annotations : List Annotation} {note : Annotation} (hnote : note ∈ annotations)
    (hline : note.line < doc.length) :
    ∃ rendered, (renderLines width colour doc annotations)[note.line]? = some rendered ∧
      paint note.text note.style colour <:+: rendered := by
  have hmem : note ∈ notes annotations note.line :=
    List.mem_filter.mpr ⟨hnote, beq_self_eq_true note.line⟩
  have hfound : (gather doc annotations).get? note.line = some (notes annotations note.line) := by
    rw [get?_gather annotations hline, if_neg (List.ne_nil_of_mem hmem)]
  refine ⟨_, getElem?_renderLines width colour annotations (List.getElem?_eq_getElem hline), ?_⟩
  have hpaint : paint note.text note.style colour <:+:
      (notes annotations note.line).flatMap fun note => paint note.text note.style colour := by
    obtain ⟨before, after, hnotes⟩ := List.append_of_mem hmem
    rw [hnotes, List.flatMap_append, List.flatMap_cons, ← List.append_assoc]
    exact List.infix_append _ _ _
  rw [renderLine, hfound, trailer]
  exact (hpaint.trans (List.suffix_append _ _).isInfix).trans (List.suffix_append _ _).isInfix

end InlineEval.Listing
