import InlineEval.Proofs.Segment.Partition

/-! # Unfinished statements are not cut

A segment that grows line by line takes every line as long as its statement is
unfinished, so it can only end in the middle of one where the document ends. A
marked line in explicit mode does not grow: it is cut off from the lines that
would finish it.
-/

namespace InlineEval

open Text

/-- In explicit mode a marked line is a segment of its own, unless it is the
header of a compound statement. -/
def StandsAlone (mode : Mode) (markers : MarkerSet) (line : Text) : Prop :=
  mode = .explicit ∧ markers.marks line = true ∧ opensCompound (trim line) = false

instance (mode : Mode) (markers : MarkerSet) (line : Text) :
    Decidable (StandsAlone mode markers line) :=
  inferInstanceAs (Decidable (_ ∧ _))

/-- Lines that leave a statement unfinished are all that is left, if they are
taken as one segment that may grow. -/
theorem Taken.after_eq_nil {mode : Mode} {markers : MarkerSet} {texts after : List Text}
    (htaken : Taken mode markers texts after)
    (hgrows : ∀ line, texts = [line] → ¬ StandsAlone mode markers line)
    (hunfinished : (Scanner.fresh.feedAll texts).continues = true) : after = [] := by
  cases htaken with
  | alone _ hplain halone => exact absurd ⟨halone.1, halone.2, hplain⟩ (hgrows _ rfl)
  | @grown draft rest hgrown hrefused =>
      rw [← hgrown.sound.scan_eq] at hunfinished
      rw [hgrown.sound.held_of_continues hunfinished, List.nil_append]
      cases rest with
      | nil => rfl
      | cons next rest =>
          -- A draft whose scan goes on accepts any line, so it cannot have refused this one.
          have haccept := hrefused next rfl
          rw [Draft.accept_eq_some_iff.mpr (.unfinished hunfinished)] at haccept
          cases haccept

namespace Document

/-- A segment whose lines leave a statement unfinished ends with the document,
whatever the indentation and the marks of the lines that follow, unless it is
a marked line that stands alone. -/
theorem last_of_unfinished {t : Text} {mode : Mode} {markers : MarkerSet} {segment : Segment}
    (hmem : segment ∈ (ofText t).segments mode markers)
    (hgrows : ∀ line, segment.texts = [line] → ¬ StandsAlone mode markers line)
    (hunfinished : (Scanner.fresh.feedAll segment.texts).continues = true) :
    segment.last + 1 = (ofText t).length := by
  obtain ⟨before, after, hcut, hsegment, htaken⟩ := exists_taken hmem
  have hafter := htaken.after_eq_nil hgrows hunfinished
  have hpos := List.length_pos_iff.mpr htaken.ne_nil
  rw [hsegment]
  simp only [Segment.ofLines, length, hcut, hafter, List.length_append, List.length_nil]
  omega

/-- A bracket that the end of the document leaves open keeps the marked line
inside it, in explicit mode too. -/
theorem last_of_unfinished_open_bracket :
    let doc := ofText "x = [\n1,  # ?\n2".toList
    let segment : Segment := ⟨0, 2, "x = [\n1,  # ?\n2".toList⟩
    segment ∈ doc.segments .explicit .default ∧ segment.last + 1 = doc.length := by
  have hmem : ⟨0, 2, "x = [\n1,  # ?\n2".toList⟩ ∈
      (ofText "x = [\n1,  # ?\n2".toList).segments .explicit .default := by decide
  refine ⟨hmem, last_of_unfinished hmem ?_ (by decide)⟩
  intro line hline
  have htexts : (⟨0, 2, "x = [\n1,  # ?\n2".toList⟩ : Segment).texts.length = 3 := by decide
  rw [hline] at htexts
  cases htexts

/-- A marked line with an open bracket is cut off from the line that closes
it. -/
theorem unfinished_cut_behind_mark :
    ¬ ∀ (t : Text) (mode : Mode) (markers : MarkerSet),
      ∀ segment ∈ (ofText t).segments mode markers,
        (Scanner.fresh.feedAll segment.texts).continues = true →
          segment.last + 1 = (ofText t).length := by
  intro hclaim
  have hlast := hclaim "x = [  # ?\n    1]".toList .explicit .default
    ⟨0, 0, "x = [  # ?".toList⟩ (by decide) (by decide)
  revert hlast
  decide

end Document

end InlineEval
