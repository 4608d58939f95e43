import InlineEval.Proofs.Source.Lexemes
import InlineEval.Proofs.Text.Trim

/-! # Backslashes at the end of a line

A backslash at the end of a line joins the next line to it, unless it is part of
a comment. In a long string it does not matter, because the string goes on
anyway. Where a line ends in a string in single marks, the scanner takes no
notice of the backslash that would carry the string over.
-/

namespace InlineEval

open Text

/-- The number of backslashes that a line ends with. -/
def endingBackslashes (line : Text) : Nat := (line.reverse.takeWhile (· == '\\')).length

/-- Nothing is trimmed behind a backslash. -/
theorem endsWith_trimEnd_of_backslashes {line : Text} (hbackslashes : 0 < endingBackslashes line) :
    endsWith '\\' (trimEnd line) = true := by
  rcases List.eq_nil_or_concat' line with rfl | ⟨before, last, rfl⟩
  · cases hbackslashes
  · by_cases hlast : last = '\\'
    · rw [hlast, trimEnd_append_cons (by decide)]
      simp [endsWith, trimEnd]
    · simp [endingBackslashes, hlast] at hbackslashes

namespace Scanner

/-- A line that ends in code, or in a string in single marks, with an odd number
of backslashes goes on in the next line. In the string this needs an open
bracket. -/
theorem continues_feed_of_backslashes {scan : Scanner} {line code : Text} {place : Context}
    (hreading : LineReading scan.long line code place) (hcomment : place ≠ .comment)
    (hlong : ∀ quote, place ≠ .long quote) (hodd : endingBackslashes line % 2 = 1) :
    (scan.feed line).continues = true ↔ place = .code ∨ 0 < (scan.feed line).depth := by
  have hends : endsWith '\\' (trimEnd line) = true := endsWith_trimEnd_of_backslashes (by omega)
  rw [hreading.feed_eq, hends, continues]
  cases place with
  | code => simp
  | short quote => simp [Context.long?]
  | long quote => exact absurd rfl (hlong quote)
  | comment => exact absurd rfl hcomment

/-- The string of an argument is left open by one backslash, and so is the
bracket in front of it. -/
theorem continues_feed_of_backslashes_in_call :
    let line := "f('a\\".toList
    LineReading fresh.long line "f(".toList (.short '\'') ∧ endingBackslashes line % 2 = 1 ∧
      (fresh.feed line).continues = true := by
  intro line
  have hreading : LineReading fresh.long line "f(".toList (.short '\'') :=
    .code (by decide) (by decide) (.code (by decide) (by decide)
      (.openString (by decide) (by decide) (by decide)))
  have hodd : endingBackslashes line % 2 = 1 := by decide
  refine ⟨hreading, hodd, ?_⟩
  rw [continues_feed_of_backslashes hreading (by simp) (by simp) hodd]
  decide

/-- A backslash that carries a string over to the next line is passed by. -/
theorem backslash_passed_by_in_string :
    ¬ ∀ (scan : Scanner) (line code : Text) (place : Context),
      LineReading scan.long line code place → place ≠ .comment →
        (∀ quote, place ≠ .long quote) → endingBackslashes line % 2 = 1 →
          (scan.feed line).continues = true := by
  intro hclaim
  have hreading : LineReading fresh.long "s='a\\".toList "s=".toList (.short '\'') :=
    .code (by decide) (by decide) (.code (by decide) (by decide)
      (.openString (by decide) (by decide) (by decide)))
  have hcontinues := hclaim fresh _ _ _ hreading (by simp) (by simp) (by decide)
  revert hcontinues
  decide

end Scanner

end InlineEval
