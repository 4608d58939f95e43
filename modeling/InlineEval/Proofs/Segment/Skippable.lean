import InlineEval.Proofs.Text.Lines
import InlineEval.Proofs.Text.Trim
import InlineEval.Segment.Draft

/-! # Lines to be skipped

A blank line or a comment means nothing to the scanner. As long as no
statement is unfinished it can be read or left out, which is why lines that
are held back need not be scanned when they turn out to belong to a segment.
-/

namespace InlineEval

open Text

/-- None of the characters that the scanner acts on is white space. -/
theorem isSpace_eq_false_of_mem :
    ∀ c ∈ ['#', '"', '\'', '(', '[', '{', ')', ']', '}'], isSpace c = false := by
  simp [isSpace]

theorem ne_of_isSpace {c : Char} (hspace : isSpace c = true) :
    ∀ mark ∈ ['#', '"', '\'', '(', '[', '{', ')', ']', '}'], c ≠ mark := by
  rintro mark hmark rfl
  rw [isSpace_eq_false_of_mem c hmark] at hspace
  cases hspace

namespace Cursor

theorem step_space {c : Char} (hspace : isSpace c = true) (depth : Nat) (rest : Text) :
    (⟨0, .code, depth⟩ : Cursor).step c rest = ⟨0, .code, depth⟩ := by
  have hother := ne_of_isSpace hspace
  simp only [List.mem_cons, List.not_mem_nil, or_false, forall_eq_or_imp, forall_eq] at hother
  simp [step, isQuote, isOpening, isClosing, hother]

theorem run_blank {space : Text} (hblank : isBlank space = true) (depth : Nat) (rest : Text) :
    (⟨0, .code, depth⟩ : Cursor).run (space ++ rest) = (⟨0, .code, depth⟩ : Cursor).run rest := by
  induction space with
  | nil => rfl
  | cons c space ih =>
      have hspace := isBlank_iff.mp hblank
      rw [List.cons_append, run, step_space (hspace c List.mem_cons_self)]
      exact ih (isBlank_iff.mpr fun d hd => hspace d (List.mem_cons_of_mem _ hd))

theorem run_comment (depth : Nat) (rest : Text) :
    (⟨0, .comment, depth⟩ : Cursor).run rest = ⟨0, .comment, depth⟩ := by
  induction rest with
  | nil => rfl
  | cons c rest ih => exact ih

end Cursor

namespace Scanner

theorem continues_eq_false_iff {scan : Scanner} : scan.continues = false ↔ scan = fresh := by
  obtain ⟨depth, long, backslash⟩ := scan
  simp [continues, fresh, and_assoc]

theorem feed_fresh_of_isBlank {line : Text} (hblank : isBlank line = true) :
    fresh.feed line = fresh := by
  have hrun := Cursor.run_blank hblank 0 []
  rw [List.append_nil] at hrun
  have hend : trimEnd line = [] := by
    rw [trimEnd_eq_rdropWhile, List.rdropWhile_eq_nil_iff]
    exact isBlank_iff.mp hblank
  simp [feed, cursor, fresh, hrun, hend, Cursor.run, endsWith]

theorem feed_fresh_of_comment {line : Text} (hhead : (trim line).head? = some '#') :
    fresh.feed line = fresh := by
  obtain ⟨space, rest, hblank, rfl⟩ := exists_of_head?_trim hhead
  have hrun : (⟨0, .code, 0⟩ : Cursor).run (space ++ '#' :: rest) = ⟨0, .comment, 0⟩ := by
    rw [Cursor.run_blank hblank]
    exact Cursor.run_comment 0 rest
  simp [feed, cursor, fresh, hrun]

theorem feed_fresh_of_isSkippable {markers : MarkerSet} {line : Text}
    (hskip : isSkippable markers line = true) : fresh.feed line = fresh := by
  simp only [isSkippable, Bool.or_eq_true, Bool.and_eq_true, beq_iff_eq] at hskip
  rcases hskip with hblank | ⟨hhead, _⟩
  · exact feed_fresh_of_isBlank hblank
  · exact feed_fresh_of_comment hhead

/-- A scanner that waits for nothing reads past lines to be skipped. -/
theorem feedAll_of_isSkippable {markers : MarkerSet} {scan : Scanner} {lines : List Text}
    (hdone : scan.continues = false) (hskip : ∀ line ∈ lines, isSkippable markers line = true) :
    scan.feedAll lines = scan := by
  rw [continues_eq_false_iff] at hdone
  subst hdone
  induction lines with
  | nil => rfl
  | cons line rest ih =>
      rw [feedAll, List.foldl_cons, feed_fresh_of_isSkippable (hskip line List.mem_cons_self)]
      exact ih fun later hlater => hskip later (List.mem_cons_of_mem _ hlater)

end Scanner

theorem isBlank_eq_false_of_isSkippable {markers : MarkerSet} {line : Text}
    (hkeep : isSkippable markers line = false) : isBlank line = false := by
  simp only [isSkippable, Bool.or_eq_false_iff] at hkeep
  exact hkeep.1

/-- Joined lines are not blank if the first of them is not. -/
theorem isBlank_joinLines_eq_false {first : Text} (rest : List Text)
    (hfirst : isBlank first = false) : isBlank (joinLines (first :: rest)) = false := by
  cases rest with
  | nil => simpa [joinLines, join] using hfirst
  | cons second rest =>
      rw [joinLines_cons (List.cons_ne_nil second rest), isBlank, List.all_append,
        Bool.and_eq_false_iff]
      exact Or.inl hfirst

end InlineEval
