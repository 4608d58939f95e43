import InlineEval.Proofs.Listing
import InlineEval.Proofs.Text.Natural
import Mathlib.Order.Bounds.Basic

/-! # Rows of a listing

A listing has one row for each line of the document and shows the line as it
is. Numbers end in one column, and so do annotated lines with the blanks behind
them, whatever the measure of texts. That column is the greatest one which an
annotated line needs, so no padding is ever cut off at zero.
-/

namespace InlineEval.Listing

open Text

variable {width : Text → Nat} {doc : Document} {annotations : List Annotation}

/-- An annotation is addressed to this line. -/
def IsAnnotated (annotations : List Annotation) (i : Nat) : Prop :=
  ∃ note ∈ annotations, note.line = i

theorem notes_eq_nil_iff {i : Nat} : notes annotations i = [] ↔ ¬ IsAnnotated annotations i := by
  simp [notes, IsAnnotated]

/-- The annotations are gathered under the annotated lines of the document. -/
theorem mem_lines_gather {i : Nat} :
    i ∈ (gather doc annotations).lines ↔ i < doc.length ∧ IsAnnotated annotations i := by
  rw [gather, Annotation.ByLine.mem_lines_ofList]
  simp only [List.mem_filter, decide_eq_true_eq]
  constructor
  · rintro ⟨note, ⟨hnote, hinside⟩, rfl⟩
    exact ⟨hinside, note, hnote, rfl⟩
  · rintro ⟨hinside, note, hnote, rfl⟩
    exact ⟨note, ⟨hnote, hinside⟩, rfl⟩

/-! ## The column -/

theorem isGreatest_foldl_max {numbers : List Nat} (hne : numbers ≠ []) :
    IsGreatest {n | n ∈ numbers} (numbers.foldl max 0) := by
  obtain ⟨greatest, hgreatest⟩ := Option.isSome_iff_exists.mp (List.isSome_max?_of_ne_nil hne)
  rw [List.foldl_max, hgreatest, Option.getD_some, Nat.zero_max]
  exact List.max?_eq_some_iff.mp hgreatest

/-- The widths of the annotated lines of a document. -/
def annotatedWidths (width : Text → Nat) (doc : Document) (annotations : List Annotation) :
    Set Nat :=
  {columns | ∃ i line, doc.line? i = some line ∧ IsAnnotated annotations i ∧
    width line = columns}

/-- They are the widths of the lines under which annotations are gathered. -/
theorem annotatedWidths_eq :
    annotatedWidths width doc annotations = {columns | columns ∈
      (gather doc annotations).lines.filterMap fun i => (doc.line? i).map width} := by
  ext columns
  constructor
  · rintro ⟨i, line, hline, hnote, rfl⟩
    have hinside : i < doc.length := (List.getElem?_eq_some_iff.mp hline).1
    exact List.mem_filterMap.mpr
      ⟨i, mem_lines_gather.mpr ⟨hinside, hnote⟩, congrArg (Option.map width) hline⟩
  · intro hcolumns
    obtain ⟨i, hi, hwidth⟩ := List.mem_filterMap.mp hcolumns
    obtain ⟨line, hline, rfl⟩ := Option.map_eq_some_iff.mp hwidth
    exact ⟨i, line, hline, (mem_lines_gather.mp hi).2, rfl⟩

/-- The column is the greatest width of an annotated line, if there is one. -/
theorem column_isGreatest (hsome : (annotatedWidths width doc annotations).Nonempty) :
    IsGreatest (annotatedWidths width doc annotations)
      (column width doc (gather doc annotations)) := by
  rw [annotatedWidths_eq] at hsome ⊢
  obtain ⟨columns, hcolumns⟩ := hsome
  exact isGreatest_foldl_max (List.ne_nil_of_mem hcolumns)

/-! ## Rows -/

/-- The digits of a number, with as many blanks in front of them as fill a
width. -/
def IsAligned (columns n : Nat) (t : Text) : Prop :=
  t.length = columns ∧ ∃ space, t = blanks space ++ ofNat n

/-- What the listing shows of a line, with annotations that begin in a given
column. -/
inductive Row (width : Text → Nat) (doc : Document) (annotations : List Annotation)
    (first i : Nat) (line : Text) : Text → Prop where
  | bare {number : Text} (hnumber : IsAligned (ofNat doc.length).length (i + 1) number)
      (hbare : ¬ IsAnnotated annotations i) :
      Row width doc annotations first i line (number ++ " | ".toList ++ line)
  | annotated {number : Text} {padding : Nat}
      (hnumber : IsAligned (ofNat doc.length).length (i + 1) number)
      (hnote : IsAnnotated annotations i) (hcolumn : width line + padding = first) :
      Row width doc annotations first i line (number ++ " | ".toList ++ line ++
        (blanks padding ++ (annotations.filter (·.line == i)).flatMap (·.text)))

/-- No number of a line is wider than that of the last line. -/
theorem isAligned_lineNumber {total i : Nat} (hi : i < total) :
    IsAligned (ofNat total).length (i + 1) (lineNumber total i false) := by
  have hfits : (ofNat (i + 1)).length ≤ (ofNat total).length := length_ofNat_le hi
  have htotal : max total 1 = total := by omega
  have hnumber : lineNumber total i false = alignRight (ofNat total).length (i + 1) := by
    rw [lineNumber, htotal]
    rfl
  rw [hnumber, alignRight]
  refine ⟨?_, _, rfl⟩
  rw [List.length_append, blanks, List.length_replicate]
  omega

theorem row_renderLine {i : Nat} {line : Text} (hline : doc.line? i = some line) :
    Row width doc annotations (column width doc (gather doc annotations)) i line
      (renderLine width false doc.length (column width doc (gather doc annotations)) i line
        ((gather doc annotations).get? i)) := by
  have hi : i < doc.length := (List.getElem?_eq_some_iff.mp hline).1
  have hnumber := isAligned_lineNumber hi
  rw [get?_gather annotations hi]
  unfold renderLine trailer
  by_cases hnote : IsAnnotated annotations i
  · rw [if_neg (fun hnone => notes_eq_nil_iff.mp hnone hnote)]
    have hwidth : width line ∈ annotatedWidths width doc annotations :=
      ⟨i, line, hline, hnote, rfl⟩
    have hbound := (column_isGreatest ⟨_, hwidth⟩).2 hwidth
    exact .annotated hnumber hnote (Nat.add_sub_cancel' hbound)
  · rw [if_pos (notes_eq_nil_iff.mpr hnote), List.append_nil]
    exact .bare hnumber hnote

theorem IsAligned.newline_not_mem {columns n : Nat} {t : Text} (haligned : IsAligned columns n t) :
    '\n' ∉ t := by
  obtain ⟨-, space, rfl⟩ := haligned
  intro hmem
  rcases List.mem_append.mp hmem with hblank | hdigit
  · cases List.eq_of_mem_replicate hblank
  · cases isDigit_of_mem_ofNat hdigit

/-- A row stays on its line. -/
theorem Row.newline_not_mem {first i : Nat} {line row : Text}
    (hrow : Row width doc annotations first i line row) (hline : '\n' ∉ line)
    (htexts : ∀ note ∈ annotations, '\n' ∉ note.text) : '\n' ∉ row := by
  have hfront {number : Text} (hnumber : IsAligned (ofNat doc.length).length (i + 1) number) :
      '\n' ∉ number ++ " | ".toList ++ line := by
    intro hmem
    rcases List.mem_append.mp hmem with hmem | hmem
    · rcases List.mem_append.mp hmem with hmem | hmem
      · exact hnumber.newline_not_mem hmem
      · revert hmem
        decide
    · exact hline hmem
  cases hrow with
  | bare hnumber => exact hfront hnumber
  | annotated hnumber =>
      intro hmem
      rcases List.mem_append.mp hmem with hmem | hmem
      · exact hfront hnumber hmem
      · rcases List.mem_append.mp hmem with hblank | hmem
        · cases List.eq_of_mem_replicate hblank
        · obtain ⟨note, hnote, hmem⟩ := List.mem_flatMap.mp hmem
          exact htexts note (List.mem_of_mem_filter hnote) hmem

/-! ## The listing -/

/-- Annotations behind the end of the document are not gathered. -/
theorem renderBy_filter (colour : Bool) :
    renderBy width colour doc (annotations.filter fun note => decide (note.line < doc.length)) =
      renderBy width colour doc annotations := by
  have hgather : gather doc (annotations.filter fun note => decide (note.line < doc.length)) =
      gather doc annotations := by
    rw [gather, gather, List.filter_filter]
    simp only [Bool.and_self]
  rw [renderBy, renderBy, renderLines, renderLines, hgather]

/-- A listing without colours has a row for each line of the document, with
its number, the line and the texts of its annotations, which begin in one
column; what is addressed to no line of the document changes nothing. -/
theorem listing_aligned (width : Text → Nat) (t : Text) {annotations : List Annotation}
    (htexts : ∀ note ∈ annotations, '\n' ∉ note.text) :
    let doc := Document.ofText t
    ∃ (rows : List Text) (first : Nat),
      split '\n' (renderBy width false doc annotations) = rows ++ [[]] ∧
      rows.length = doc.length ∧
      (∀ i line, doc.line? i = some line →
        ∃ row, rows[i]? = some row ∧ Row width doc annotations first i line row) ∧
      ((annotatedWidths width doc annotations).Nonempty →
        IsGreatest (annotatedWidths width doc annotations) first) ∧
      renderBy width false doc
          (annotations.filter fun note => decide (note.line < doc.length)) =
        renderBy width false doc annotations := by
  intro doc
  refine ⟨renderLines width false doc annotations, column width doc (gather doc annotations), ?rows,
    renderLines_length width false doc annotations, ?row, column_isGreatest, renderBy_filter false⟩
  case rows =>
    refine split_flatMap_newline fun row hrow => ?_
    obtain ⟨i, hi⟩ := List.mem_iff_getElem?.mp hrow
    have hlength := renderLines_length width false doc annotations
    have hlt : i < doc.lines.length := by
      have hbound := (List.getElem?_eq_some_iff.mp hi).1
      rwa [hlength] at hbound
    have hline : doc.line? i = some doc.lines[i] := List.getElem?_eq_getElem hlt
    rw [getElem?_renderLines width false annotations hline, Option.some.injEq] at hi
    rw [← hi]
    exact (row_renderLine hline).newline_not_mem
      (Document.newline_not_mem_ofText (List.getElem_mem hlt)) htexts
  case row =>
    intro i line hline
    exact ⟨_, getElem?_renderLines width false annotations hline, row_renderLine hline⟩

/-- Two characters of the first line take two columns each, the annotations
come in no order, and one of them stands on no line. -/
theorem listing_aligned_wide :
    let width : Text → Nat := fun line =>
      line.length + (line.filter fun c => 0x3000 ≤ c.toNat).length
    let doc := Document.ofText "s = '日本'\nt = 'ab'\n# end".toList
    let annotations : List Annotation :=
      [.value 1 " → y".toList, .value 7 " lost".toList, .value 0 " → x".toList,
        .timing 1 12]
    let rows := ["1 | s = '日本' → x".toList, "2 | t = 'ab'   → y ⏱ 12 ms".toList,
      "3 | # end".toList]
    (∀ note ∈ annotations, '\n' ∉ note.text) ∧
      split '\n' (renderBy width false doc annotations) = rows ++ [[]] ∧
      ∃ first, (∀ i line, doc.line? i = some line →
          ∃ row, rows[i]? = some row ∧ Row width doc annotations first i line row) ∧
        IsGreatest (annotatedWidths width doc annotations) first := by
  intro width doc annotations rows
  have htexts : ∀ note ∈ annotations, '\n' ∉ note.text := by decide
  have hlisting : split '\n' (renderBy width false doc annotations) = rows ++ [[]] := by
    decide +kernel
  obtain ⟨shown, first, hshown, -, hrows, hgreatest, -⟩ :=
    listing_aligned width "s = '日本'\nt = 'ab'\n# end".toList htexts
  obtain rfl : rows = shown := List.append_cancel_right (hlisting.symm.trans hshown)
  have hannotated : IsAnnotated annotations 1 := ⟨.value 1 " → y".toList, by decide, rfl⟩
  exact ⟨htexts, hlisting, first, hrows, hgreatest ⟨_, 1, _, rfl, hannotated, rfl⟩⟩

end InlineEval.Listing
