import InlineEval.Proofs.Source.Lexemes
import Mathlib.Data.List.Induction
import Mathlib.Order.Bounds.Basic

/-! # Open brackets

A closing bracket without an open one has no effect, so the number of open
brackets depends on the order of all that came before. It has a closed form: it
is the most by which opening brackets outnumber closing ones in what was read
last, for any length of it.
-/

namespace InlineEval

open Text

def isBracket (c : Char) : Bool := isOpening c || isClosing c

/-- How many more brackets are opened than closed. -/
def excess (brackets : Text) : ℤ := brackets.countP isOpening - brackets.countP isClosing

theorem isClosing_of_isOpening {c : Char} (hopening : isOpening c = true) : isClosing c = false := by
  simp only [isOpening, Bool.or_eq_true, beq_iff_eq] at hopening
  rcases hopening with (rfl | rfl) | rfl <;> rfl

/-- The other characters of the code do not matter. -/
theorem foldl_nest_filter (code : Text) (depth : Nat) :
    (code.filter isBracket).foldl nest depth = code.foldl nest depth := by
  rw [List.foldl_filter]
  refine List.foldl_ext _ _ _ fun depth c _ => ?_
  cases hopening : isOpening c <;> cases hclosing : isClosing c <;>
    simp [isBracket, nest, hopening, hclosing]

theorem excess_concat (brackets : Text) (c : Char) :
    excess (brackets ++ [c]) = excess brackets + excess [c] := by
  simp only [excess, List.countP_append]
  omega

/-- One more character makes a difference of one at most, and none below zero. -/
theorem nest_eq (depth : Nat) (c : Char) : (nest depth c : ℤ) = max 0 (depth + excess [c]) := by
  unfold nest
  split
  next hopening =>
    have hmore : excess [c] = 1 := by
      simp [excess, hopening, isClosing_of_isOpening hopening]
    omega
  next hopening =>
    split
    next hclosing =>
      have hless : excess [c] = -1 := by simp [excess, hopening, hclosing]
      omega
    next hclosing =>
      have hsame : excess [c] = 0 := by simp [excess, hopening, hclosing]
      omega

/-- What a text and one more character end with, besides nothing, is what the
text ends with and that character. -/
theorem exists_suffix_concat_iff {brackets : Text} {c : Char} {n : ℤ} :
    (∃ suffix, suffix <:+ brackets ++ [c] ∧ excess suffix = n) ↔
      n = 0 ∨ ∃ suffix, suffix <:+ brackets ∧ excess suffix + excess [c] = n := by
  constructor
  · rintro ⟨suffix, hsuffix, rfl⟩
    rcases List.suffix_concat_iff.mp hsuffix with rfl | ⟨before, rfl, hbefore⟩
    · exact .inl rfl
    · exact .inr ⟨before, hbefore, (excess_concat before c).symm⟩
  · rintro (rfl | ⟨suffix, hsuffix, rfl⟩)
    · exact ⟨[], List.nil_suffix, rfl⟩
    · exact ⟨suffix ++ [c], List.suffix_concat_iff.mpr (.inr ⟨suffix, rfl, hsuffix⟩),
        excess_concat suffix c⟩

/-- The depth behind some characters is the greatest excess that they end with. -/
theorem isGreatest_excess (brackets : Text) :
    IsGreatest {n | ∃ suffix, suffix <:+ brackets ∧ excess suffix = n}
      ((brackets.foldl nest 0 : ℕ) : ℤ) := by
  induction brackets using List.reverseRecOn with
  | nil =>
      refine ⟨⟨[], List.suffix_rfl, rfl⟩, ?_⟩
      rintro _ ⟨suffix, hsuffix, rfl⟩
      rw [List.suffix_nil.mp hsuffix]
      rfl
  | append_singleton brackets c ih =>
      obtain ⟨⟨greatest, hsuffix, hexcess⟩, hbound⟩ := ih
      rw [List.foldl_append, List.foldl_cons, List.foldl_nil, nest_eq]
      constructor
      · apply exists_suffix_concat_iff.mpr
        rcases le_total 0 (excess greatest + excess [c]) with hpos | hneg
        · refine .inr ⟨greatest, hsuffix, ?_⟩
          rw [← hexcess, max_eq_right hpos]
        · refine .inl ?_
          rw [← hexcess, max_eq_left hneg]
      · intro n hn
        rcases exists_suffix_concat_iff.mp hn with rfl | ⟨suffix, hsuffix, rfl⟩
        · exact le_max_left _ _
        · have hbefore := hbound ⟨suffix, hsuffix, rfl⟩
          exact (Int.add_le_add_right hbefore _).trans (le_max_right _ _)

namespace Scanner

/-- The lines have one reading, and the scanner's depth is the greatest excess
that the brackets of its code end with. So a bracket is open if and only if some
of them, up to the last, are opened more often than closed. -/
theorem depth_isGreatest_excess (lines : List Text) :
    ∃ code, (∀ other, Reading none lines other ↔ other = code) ∧
      IsGreatest {n | ∃ suffix, suffix <:+ code.filter isBracket ∧ excess suffix = n}
        ((fresh.feedAll lines).depth : ℤ) ∧
      (0 < (fresh.feedAll lines).depth ↔ ∃ suffix, suffix <:+ code.filter isBracket ∧
        suffix.countP isClosing < suffix.countP isOpening) := by
  obtain ⟨code, hreading⟩ := Reading.exists_reading none lines
  have hdepth : (fresh.feedAll lines).depth = (code.filter isBracket).foldl nest 0 := by
    rw [foldl_nest_filter]
    exact hreading.depth_feedAll
  have hgreatest := isGreatest_excess (code.filter isBracket)
  rw [← hdepth] at hgreatest
  refine ⟨code, fun other => ⟨fun hother => hother.unique hreading, ?_⟩, hgreatest, ?_⟩
  · rintro rfl
    exact hreading
  · constructor
    · intro hopen
      obtain ⟨suffix, hsuffix, hexcess⟩ := hgreatest.1
      refine ⟨suffix, hsuffix, ?_⟩
      unfold excess at hexcess
      omega
    · rintro ⟨suffix, hsuffix, hmore⟩
      have hbound := hgreatest.2 ⟨suffix, hsuffix, rfl⟩
      unfold excess at hbound
      omega

/-- Closing brackets without open ones, and brackets in strings of both kinds and
in a comment. -/
example : (fresh.feedAll ["))(".toList, "s = '''(".toList, "]''' [ '(\\'(' # (".toList]).depth =
    2 := by decide

end Scanner

end InlineEval
