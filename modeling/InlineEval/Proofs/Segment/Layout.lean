import InlineEval.Proofs.Segment.Growth
import InlineEval.Proofs.Source.Numbered
import InlineEval.Segment.Division

/-! # The layout of a divided document

Dividing lays a document out as segments with lines to be skipped between
them. The layout remembers for each segment how its draft grew and what stands
behind it, so that properties of segments follow from the layout without going
through the division again.
-/

namespace InlineEval

open Text

variable {mode : Mode} {markers : MarkerSet}

/-- The first of the given lines are taken as one segment, and the rest is
left. -/
inductive Taken (mode : Mode) (markers : MarkerSet) : List Text → List Text → Prop
  /-- A marked line in explicit mode. -/
  | alone {line : Text} {after : List Text} (hkeep : isSkippable markers line = false)
      (hplain : opensCompound (trim line) = false)
      (halone : mode = .explicit ∧ markers.marks line = true) :
      Taken mode markers [line] after
  /-- A draft that has grown until it did not accept the next line. What it
  holds back is left. -/
  | grown {draft : Draft} {rest : List Text} (hgrown : draft.Grown mode markers)
      (hrefused : ∀ next ∈ rest.head?, draft.accept mode markers next = none) :
      Taken mode markers draft.lines (draft.held ++ rest)

/-- The lines from index `i` on are laid out as these segments and lines to be
skipped. -/
inductive Layout (mode : Mode) (markers : MarkerSet) : Nat → List Text → List Segment → Prop
  | nil (i : Nat) : Layout mode markers i [] []
  | skip {i : Nat} {line : Text} {rest : List Text} {segments : List Segment}
      (hskip : isSkippable markers line = true)
      (hrest : Layout mode markers (i + 1) rest segments) :
      Layout mode markers i (line :: rest) segments
  | segment {i : Nat} {texts rest : List Text} {segments : List Segment}
      (htaken : Taken mode markers texts rest)
      (hrest : Layout mode markers (i + texts.length) rest segments) :
      Layout mode markers i (texts ++ rest) (Segment.ofLines i texts :: segments)

namespace Taken

variable {texts after : List Text}

theorem ne_nil (htaken : Taken mode markers texts after) : texts ≠ [] := by
  cases htaken with
  | alone => exact List.cons_ne_nil _ _
  | grown hgrown => exact hgrown.sound.ne_nil

theorem head_kept (htaken : Taken mode markers texts after) :
    ∀ line ∈ texts.head?, isSkippable markers line = false := by
  cases htaken with
  | alone hkeep =>
      intro line hline
      cases hline
      exact hkeep
  | grown hgrown => exact hgrown.sound.head_kept

theorem last_taken (htaken : Taken mode markers texts after) :
    ∀ line ∈ texts.getLast?, isSkippable markers line = true →
      (Scanner.fresh.feedAll texts.dropLast).continues = true := by
  cases htaken with
  | alone hkeep =>
      intro line hline hskip
      rw [List.getLast?_singleton, Option.mem_some_iff] at hline
      subst hline
      rw [hkeep] at hskip
      cases hskip
  | grown hgrown => exact hgrown.sound.last_taken

end Taken

namespace Layout

/-! ## Dividing lays out -/

/-- Lines to be skipped may stand in front of any layout. -/
theorem skips {i : Nat} {skipped rest : List Text} {segments : List Segment}
    (hskip : ∀ line ∈ skipped, isSkippable markers line = true)
    (hrest : Layout mode markers (i + skipped.length) rest segments) :
    Layout mode markers i (skipped ++ rest) segments := by
  induction skipped generalizing i with
  | nil => exact hrest
  | cons line skipped ih =>
      refine .skip (hskip line List.mem_cons_self) (ih ?_ ?_)
      · exact fun later hlater => hskip later (List.mem_cons_of_mem _ hlater)
      · rwa [List.length_cons, Nat.add_comm skipped.length, ← Nat.add_assoc] at hrest

/-- A draft that does not accept the next line is closed. The lines that it
holds back are skipped. -/
theorem close {draft : Draft} {rest : List Text} {segments : List Segment}
    (hgrown : draft.Grown mode markers)
    (hrefused : ∀ next ∈ rest.head?, draft.accept mode markers next = none)
    (hrest : Layout mode markers (draft.start + (draft.lines ++ draft.held).length) rest segments) :
    Layout mode markers draft.start (draft.lines ++ draft.held ++ rest)
      (draft.close :: segments) := by
  rw [List.append_assoc]
  refine .segment (.grown hgrown hrefused) (skips hgrown.sound.held_skippable ?_)
  rwa [Nat.add_assoc, ← List.length_append]

/-- The lines from index `i` on, behind the lines that the open draft has. -/
def Continues (mode : Mode) (markers : MarkerSet) (open? : Option Draft) (i : Nat)
    (rest : List Text) : Prop :=
  match open? with
  | none => Layout mode markers i rest (divideFrom mode markers none i rest)
  | some draft =>
      draft.Grown mode markers → i = draft.start + (draft.lines ++ draft.held).length →
      Layout mode markers draft.start (draft.lines ++ draft.held ++ rest)
        (divideFrom mode markers (some draft) i rest)

theorem startLine_layout (i : Nat) (line : Text) {rest : List Text}
    (ih : ∀ open?, Continues mode markers open? (i + 1) rest) :
    Layout mode markers i (line :: rest)
      ((startLine mode markers i line).1 ++
        divideFrom mode markers (startLine mode markers i line).2 (i + 1) rest) := by
  unfold startLine
  split
  next hskip => exact .skip hskip (ih none)
  next hkeep =>
    rw [Bool.not_eq_true] at hkeep
    split
    next hopens =>
      exact ih (some (Draft.begin i (some (indentation line)) line)) (.header hkeep hopens) rfl
    next hplain =>
      rw [Bool.not_eq_true] at hplain
      split
      next halone => exact .segment (.alone hkeep hplain halone) (ih none)
      next halone =>
        exact ih (some (Draft.begin i none line)) (.plain hkeep hplain halone) rfl

theorem divideFrom_layout (open? : Option Draft) (i : Nat) (lines : List Text) :
    Continues mode markers open? i lines := by
  -- For every draft that may be open, because the next line may close this one.
  induction lines generalizing open? i with
  | nil =>
      cases open? with
      | none => exact .nil i
      | some draft => exact fun hgrown hi => close hgrown (fun next hnext => by cases hnext) (.nil _)
  | cons line rest ih =>
      have hstart := startLine_layout i line fun open? => ih open? (i + 1)
      cases open? with
      | none => exact hstart
      | some draft =>
          intro hgrown hi
          rw [divideFrom_cons]
          cases haccept : draft.accept mode markers line with
          | some next =>
              obtain ⟨hstart, hlines⟩ := Draft.accept_lines haccept
              have hnext := ih (some next) (i + 1)
                (.takes hgrown (Draft.accept_eq_some_iff.mp haccept))
                (by rw [hlines, hstart, hi]; simp [Nat.add_assoc])
              simpa [divideLine, haccept, hlines, hstart] using hnext
          | none =>
              -- The draft ends here, and the line starts as if none had been open.
              have hrefused : ∀ next ∈ (line :: rest).head?,
                  draft.accept mode markers next = none := by
                intro next hnext
                cases hnext
                exact haccept
              simp only [divideLine, haccept]
              exact close hgrown hrefused (hi ▸ hstart)

theorem divide_layout (mode : Mode) (markers : MarkerSet) (lines : List Text) :
    Layout mode markers 0 lines (divide mode markers lines) :=
  divideFrom_layout none 0 lines

/-! ## What a layout says -/

variable {i : Nat} {lines : List Text} {segments : List Segment}

/-- A segment is cut out of the document in one piece. -/
theorem exists_cut (hlayout : Layout mode markers i lines segments) {segment : Segment}
    (hmem : segment ∈ segments) :
    ∃ before texts after, lines = before ++ (texts ++ after) ∧
      segment = Segment.ofLines (i + before.length) texts ∧ Taken mode markers texts after := by
  induction hlayout with
  | nil => cases hmem
  | @skip _ line _ _ _ _ ih =>
      obtain ⟨before, texts, after, rfl, rfl, htaken⟩ := ih hmem
      refine ⟨line :: before, texts, after, rfl, ?_, htaken⟩
      rw [List.length_cons, Nat.add_assoc, Nat.add_comm 1]
  | @segment i texts rest _ htaken _ ih =>
      rcases List.mem_cons.mp hmem with rfl | hmem
      · exact ⟨[], texts, rest, rfl, rfl, htaken⟩
      · obtain ⟨before, inner, after, rfl, rfl, hinner⟩ := ih hmem
        refine ⟨texts ++ before, inner, after, ?_, ?_, hinner⟩
        · rw [List.append_assoc]
        · rw [List.length_append, Nat.add_assoc]

theorem bounds (hlayout : Layout mode markers i lines segments) {segment : Segment}
    (hmem : segment ∈ segments) :
    i ≤ segment.first ∧ segment.first ≤ segment.last ∧ segment.last < i + lines.length := by
  obtain ⟨before, texts, after, rfl, rfl, htaken⟩ := hlayout.exists_cut hmem
  have hpos := List.length_pos_iff.mpr htaken.ne_nil
  simp only [Segment.ofLines, List.length_append]
  omega

/-- Each segment starts behind the end of all before it. -/
theorem ascending (hlayout : Layout mode markers i lines segments) :
    segments.Pairwise fun earlier later => earlier.last < later.first := by
  induction hlayout with
  | nil => exact List.Pairwise.nil
  | skip _ _ ih => exact ih
  | @segment i texts _ _ htaken hrest ih =>
      refine List.Pairwise.cons ?_ ih
      intro later hlater
      have hpos := List.length_pos_iff.mpr htaken.ne_nil
      have hlater := (hrest.bounds hlater).1
      simp only [Segment.ofLines]
      omega

/-- What lies in no segment was skipped. -/
theorem skippable_of_uncovered (hlayout : Layout mode markers i lines segments) {k : Nat}
    {line : Text} (hline : (k, line) ∈ numberedFrom i lines)
    (huncovered : ∀ segment ∈ segments, segment.contains k = false) :
    isSkippable markers line = true := by
  induction hlayout with
  | nil => cases hline
  | skip hskip _ ih =>
      rcases List.mem_cons.mp hline with heq | hline
      · cases heq
        exact hskip
      · exact ih hline huncovered
  | @segment i texts _ _ _ _ ih =>
      rw [numberedFrom_append, List.mem_append] at hline
      rcases hline with hinside | hline
      · have hindex := index_of_mem_numberedFrom hinside
        have hout := Segment.contains_eq_false_iff.mp (huncovered _ List.mem_cons_self)
        simp only [Segment.ofLines] at hout
        omega
      · exact ih hline fun segment hmem => huncovered segment (List.mem_cons_of_mem _ hmem)

end Layout

end InlineEval
