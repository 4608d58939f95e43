import InlineEval.Proofs.Segment.Partition
import InlineEval.Proofs.Segment.Stages

/-! # The extent of a compound statement

A segment that starts with a header holds the compound statement of that header
and nothing behind it. What is deeper than the header stands inside, and so do
its further clauses; the first other statement is where the segment has ended.
Marks make no difference to that.
-/

namespace InlineEval

open Text

/-- The line goes on with the compound statement of a header, because it is
indented deeper or is a further clause of it. -/
def GoesOnWith (header line : Text) : Prop :=
  indentation header < indentation line ∨
    (indentation line = indentation header ∧ isClause (trim line) = true)

theorem not_goesOnWith_iff {header line : Text} :
    ¬ GoesOnWith header line ↔ indentation line ≤ indentation header ∧
      (indentation line = indentation header → isClause (trim line) = false) := by
  simp [GoesOnWith]

namespace Draft

variable {mode : Mode} {markers : MarkerSet} {draft : Draft} {header line : Text}

/-- A line that an open compound statement takes is no new statement, or it
goes on with the compound statement. -/
theorem Takes.goesOnWith {next : Draft} (htakes : draft.Takes mode markers line next)
    (hbase : draft.base = some (indentation header)) :
    draft.scan.continues = true ∨ isSkippable markers line = true ∨ GoesOnWith header line := by
  cases htakes with
  | unfinished hscan => exact .inl hscan
  | held _ hskip => exact .inr (.inl hskip)
  | inside _ _ hopen hindent =>
      cases hopen.symm.trans hbase
      exact .inr (.inr hindent)
  | decorated _ _ hnone => cases hnone.symm.trans hbase
  | indented _ _ hnone => cases hnone.symm.trans hbase

/-- An open compound statement refuses only a statement that does not go on
with it. -/
theorem not_goesOnWith_of_refused (hbase : draft.base = some (indentation header))
    (hrefused : draft.accept mode markers line = none) :
    isSkippable markers line = false ∧ ¬ GoesOnWith header line := by
  have hnever : ∀ next, ¬ draft.Takes mode markers line next := by
    intro next htakes
    rw [accept_eq_some_iff.mpr htakes] at hrefused
    cases hrefused
  have hscan : draft.scan.continues = false :=
    Bool.eq_false_iff.mpr fun hscan => hnever _ (.unfinished hscan)
  have hkeep : isSkippable markers line = false :=
    Bool.eq_false_iff.mpr fun hskip => hnever _ (.held hscan hskip)
  exact ⟨hkeep, fun hgoes => hnever _ (.inside hscan hkeep hbase hgoes)⟩

end Draft

namespace Taken

variable {mode : Mode} {markers : MarkerSet} {texts after : List Text} {header : Text}

/-- A piece that starts with a header is a draft in which the compound
statement of that header is open. -/
theorem exists_draft (htaken : Taken mode markers texts after)
    (hheader : texts.head? = some header) (hopens : opensCompound (trim header) = true) :
    ∃ (draft : Draft) (rest : List Text), draft.Grown mode markers ∧ texts = draft.lines ∧
      after = draft.held ++ rest ∧ draft.base = some (indentation header) ∧
      ∀ next ∈ rest.head?, draft.accept mode markers next = none := by
  cases htaken with
  | alone _ hplain =>
      cases hheader
      rw [hplain] at hopens
      cases hopens
  | @grown draft rest hgrown hrefused =>
      have hfirst : draft.seen.head? = some header := by
        rw [Draft.seen, List.head?_append_of_ne_nil _ hgrown.sound.ne_nil, hheader]
      exact ⟨draft, rest, hgrown, rfl, rfl, hgrown.base_of_header hfirst hopens, hrefused⟩

/-- No line inside stands there without a reason. -/
theorem goesOnWith (htaken : Taken mode markers texts after)
    (hheader : texts.head? = some header) (hopens : opensCompound (trim header) = true)
    {before behind : List Text} {line : Text} (htexts : texts = before ++ line :: behind)
    (hbefore : before ≠ []) :
    (Scanner.fresh.feedAll before).continues = true ∨ isSkippable markers line = true ∨
      GoesOnWith header line := by
  obtain ⟨draft, _, hgrown, hlines, -, -, -⟩ := htaken.exists_draft hheader hopens
  have hseen : draft.seen = before ++ line :: (behind ++ draft.held) := by
    rw [Draft.seen, ← hlines, htexts, List.append_assoc, List.cons_append]
  obtain ⟨stage, next, hstage, rfl, htakes, -⟩ := hgrown.stage hseen hbefore
  have hfirst : stage.seen.head? = some header := by
    rw [← hheader, htexts, List.head?_append_of_ne_nil _ hbefore]
  rw [← hstage.scan_eq]
  exact htakes.goesOnWith (hstage.base_of_header hfirst hopens)

/-- The first statement behind the piece does not go on with its header. -/
theorem not_goesOnWith (htaken : Taken mode markers texts after)
    (hheader : texts.head? = some header) (hopens : opensCompound (trim header) = true)
    {skipped behind : List Text} {line : Text} (hafter : after = skipped ++ line :: behind)
    (hskipped : ∀ other ∈ skipped, isSkippable markers other = true)
    (hkeep : isSkippable markers line = false) : ¬ GoesOnWith header line := by
  obtain ⟨draft, rest, hgrown, -, hrest, hbase, hrefused⟩ := htaken.exists_draft hheader hopens
  rw [hrest] at hafter
  obtain ⟨between, hskips, hbetween⟩ := hgrown.sound.exists_eq_held_append hkeep hafter
  -- The line is the one that the draft refused, because what it refuses is not skipped.
  cases between with
  | nil => exact (Draft.not_goesOnWith_of_refused hbase (hrefused line (by rw [hbetween]; rfl))).2
  | cons other between =>
      have hother := (Draft.not_goesOnWith_of_refused hbase
        (hrefused other (by rw [hbetween]; rfl))).1
      rw [hskipped other (by simp [hskips])] at hother
      cases hother

end Taken

namespace Document

/-- A segment that starts with a header takes the compound statement of that
header: each line behind the header goes on with what stands before it, and
the first statement behind the segment is indented no deeper than the header
and is none of its clauses. -/
theorem compound_extent {t : Text} {mode : Mode} {markers : MarkerSet} {segment : Segment}
    {header : Text} (hmem : segment ∈ (ofText t).segments mode markers)
    (hheader : (ofText t).line? segment.first = some header)
    (hopens : opensCompound (trim header) = true) :
    (∀ i line, segment.first < i → i ≤ segment.last → (ofText t).line? i = some line →
      (Scanner.fresh.feedAll (segment.textsBefore i)).continues = true ∨
        isSkippable markers line = true ∨ indentation header < indentation line ∨
        (indentation line = indentation header ∧ isClause (trim line) = true)) ∧
      ∀ i line, segment.last < i → (ofText t).line? i = some line →
        isSkippable markers line = false →
        (∀ j other, segment.last < j → j < i → (ofText t).line? j = some other →
          isSkippable markers other = true) →
        indentation line ≤ indentation header ∧
          (indentation line = indentation header → isClause (trim line) = false) := by
  obtain ⟨before, after, hcut, hsegment, htaken⟩ := exists_taken hmem
  have hfirst : segment.first = before.length := congrArg Segment.first hsegment
  have hlast : segment.last = before.length + segment.texts.length - 1 :=
    congrArg Segment.last hsegment
  have hpos := List.length_pos_iff.mpr htaken.ne_nil
  have hhead : segment.texts.head? = some header := by
    rw [List.head?_eq_getElem?, ← line?_of_cut hcut hpos, Nat.add_zero, ← hfirst, hheader]
  constructor
  · intro i line hstart hend hline
    obtain ⟨k, rfl⟩ := Nat.exists_eq_add_of_lt hstart
    have hk : k + 1 < segment.texts.length := by omega
    have hinside : segment.texts[k + 1]? = some line := by
      rw [← hline, hfirst, Nat.add_assoc, line?_of_cut hcut hk]
    have hbefore : segment.textsBefore (segment.first + k + 1) = segment.texts.take (k + 1) := by
      rw [Segment.textsBefore, Nat.add_assoc, Nat.add_sub_cancel_left]
    rw [hbefore]
    refine htaken.goesOnWith hhead hopens (eq_take_append_cons hinside) ?_
    exact List.ne_nil_of_length_pos (by rw [List.length_take]; omega)
  · intro i line hbehind hline hkeep hskipped
    have hend : segment.last + 1 = before.length + segment.texts.length := by omega
    obtain ⟨k, rfl⟩ := Nat.exists_eq_add_of_le (Nat.succ_le_of_lt hbehind)
    rw [Nat.succ_eq_add_one, hend, line?_behind_cut hcut] at hline
    refine not_goesOnWith_iff.mp (htaken.not_goesOnWith hhead hopens
      (eq_take_append_cons hline) ?_ hkeep)
    intro other hother
    obtain ⟨j, hj, rfl⟩ := List.mem_iff_getElem.mp hother
    rw [List.length_take] at hj
    refine hskipped (segment.last + 1 + j) _ (by omega) (by omega) ?_
    rw [hend, line?_behind_cut hcut, List.getElem?_eq_getElem (by omega), List.getElem_take]

/-- A line with an open bracket is marked, and a blank line stands in front of
the second clause. -/
theorem compound_extent_with_clause :
    let doc := ofText "if a:\n    b = [  # ?\n1]\n\nelse:\n    c\n\nd".toList
    let segment : Segment := ⟨0, 5, "if a:\n    b = [  # ?\n1]\n\nelse:\n    c".toList⟩
    segment ∈ doc.segments .explicit .default ∧
      ((Scanner.fresh.feedAll (segment.textsBefore 2)).continues = true ∨
        isSkippable .default "1]".toList = true ∨
        indentation "if a:".toList < indentation "1]".toList ∨
        (indentation "1]".toList = indentation "if a:".toList ∧
          isClause (trim "1]".toList) = true)) ∧
      indentation "d".toList ≤ indentation "if a:".toList ∧
      (indentation "d".toList = indentation "if a:".toList →
        isClause (trim "d".toList) = false) := by
  have hmem : ⟨0, 5, "if a:\n    b = [  # ?\n1]\n\nelse:\n    c".toList⟩ ∈
      (ofText "if a:\n    b = [  # ?\n1]\n\nelse:\n    c\n\nd".toList).segments .explicit
        .default := by decide
  have hheader : (ofText "if a:\n    b = [  # ?\n1]\n\nelse:\n    c\n\nd".toList).line? 0 =
      some "if a:".toList := by decide
  obtain ⟨hinside, hbehind⟩ := compound_extent hmem hheader (by decide)
  refine ⟨hmem, hinside 2 _ (by decide) (by decide) (by decide), ?_⟩
  refine hbehind 7 _ (by decide) (by decide) (by decide) ?_
  intro j other hlast hnext hother
  have hj : j = 6 := by
    change 5 < j at hlast
    omega
  subst hj
  cases hother
  decide

end Document

end InlineEval
