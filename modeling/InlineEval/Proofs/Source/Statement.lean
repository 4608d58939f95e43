import InlineEval.Proofs.Segment.Skippable

/-! # First characters of a statement

What a line opens is decided by its first word, so a line whose first character
belongs to no word opens nothing. Decorators and comments are such lines.
-/

namespace InlineEval

open Text

/-- The first character of the line belongs to a word. -/
def startsWithWord (line : Text) : Bool := line.head?.any isWordChar

/-- `async` is a word too. -/
theorem firstWord_eq_nil {line : Text} (hword : startsWithWord line = false) :
    firstWord line = [] := by
  cases line with
  | nil => decide
  | cons c rest =>
      have hc : isWordChar c = false := hword
      have hasync : dropPrefix? "async ".toList (c :: rest) = none := by
        have hne : 'a' ≠ c := by
          rintro rfl
          revert hc
          decide
        simp [dropPrefix?, hne]
      rw [firstWord, hasync]
      exact List.takeWhile_cons_of_neg (Bool.eq_false_iff.mp hc)

/-- A line that does not start with a word is no header: what is left of it
without its comment is empty or starts with the same character. -/
theorem opensCompound_eq_false {line : Text} (hword : startsWithWord line = false) :
    opensCompound line = false := by
  have hcode : startsWithWord (trimEnd (stripComment line)) = false := by
    have hcode := stripComment_prefix line
    have hbegins : trimEnd (stripComment line) <+: line :=
      (List.rdropWhile_prefix isSpace (stripComment line)).trans hcode
    cases hstripped : trimEnd (stripComment line) with
    | nil => rfl
    | cons d rest =>
        obtain ⟨tail, htail⟩ := hbegins
        have hhead : line.head? = some d := by rw [← htail, hstripped]; rfl
        rw [startsWithWord, hhead] at hword
        exact hword
  have hkeyword : compoundKeywords.contains [] = false := by decide
  rw [opensCompound, firstWord_eq_nil hcode, hkeyword, Bool.and_false]

/-! ## The first word of a header -/

/-- A beginning without a given character is found in front of it or not at
all. -/
theorem dropPrefix?_append_cons {start : Text} {c : Char} (hc : c ∉ start) (t rest : Text) :
    dropPrefix? start (t ++ c :: rest) = (dropPrefix? start t).map (· ++ c :: rest) := by
  unfold dropPrefix?
  by_cases hbegins : start <+: t
  · have hlonger : start <+: t ++ c :: rest := hbegins.trans (List.prefix_append _ _)
    simp [hbegins, hlonger, List.drop_append_of_le_length hbegins.length_le]
  · have hnot : ¬ start <+: t ++ c :: rest := by
      rintro ⟨more, hmore⟩
      rcases cases_of_append_eq hmore with ⟨own, rfl, -⟩ | ⟨between, rfl, -⟩
      · simp at hc
      · exact hbegins (List.prefix_append _ _)
    simp [hbegins, hnot]

/-- The colon of a header ends its first word at the latest. -/
theorem firstWord_append_colon (code rest : Text) :
    firstWord (code ++ ':' :: rest) = firstWord code := by
  have hcolon : (':' :: rest).takeWhile isWordChar = [] :=
    List.takeWhile_cons_of_neg (by decide)
  have hends : ∀ t : Text, (t ++ ':' :: rest).takeWhile isWordChar = t.takeWhile isWordChar := by
    intro t
    rw [List.takeWhile_append, hcolon, List.append_nil]
    split
    next hall => rw [(List.takeWhile_prefix isWordChar).eq_of_length hall]
    next => rfl
  rw [firstWord, firstWord, dropPrefix?_append_cons (by decide)]
  cases dropPrefix? "async ".toList code with
  | none => exact hends code
  | some more =>
      simp only [Option.map_some]
      rw [trimStart_append_cons (by decide), hends]

/-- It makes no difference to the first word of a line of code that ends with a
colon whether the comment behind it is still there. -/
theorem firstWord_of_colon {line : Text}
    (hcolon : endsWith ':' (trimEnd (stripComment line)) = true) :
    firstWord (trimEnd (stripComment line)) = firstWord line := by
  rw [endsWith, beq_iff_eq] at hcolon
  obtain ⟨code, hcode⟩ := List.getLast?_eq_some_iff.mp hcolon
  have hstripped := stripComment_prefix line
  obtain ⟨tail, htail⟩ : trimEnd (stripComment line) <+: line :=
    (List.rdropWhile_prefix isSpace (stripComment line)).trans hstripped
  have hline : line = code ++ ':' :: tail := by
    rw [← htail, hcode, List.append_assoc, List.singleton_append]
  rw [hcode, hline, firstWord_append_colon, firstWord_append_colon]

theorem firstWord_of_opensCompound {line : Text} (hopens : opensCompound line = true) :
    firstWord (trimEnd (stripComment line)) = firstWord line := by
  rw [opensCompound, Bool.and_eq_true] at hopens
  exact firstWord_of_colon hopens.1

/-- A trimmed line starts without white space, and so does what is left of it
without its comment. -/
theorem cleanLine_eq_trimEnd (line : Text) :
    cleanLine line = trimEnd (stripComment (trim line)) := by
  have hstart : trimStart (stripComment (trim line)) = stripComment (trim line) := by
    refine trimStart_eq_self fun c hc => ?_
    obtain ⟨rest, hrest⟩ := stripComment_prefix (trim line)
    have hhead : (trimStart line).head? = some c := by
      rw [← head?_trim, ← hrest, List.head?_append, hc]
      rfl
    have hspace := List.head?_dropWhile_not isSpace line
    rw [← trimStart, hhead] at hspace
    exact hspace
  rw [cleanLine, trim, hstart]

/-- A line that starts with the word for it is a header if its code ends with a
colon. -/
theorem opensCompound_eq_endsWith {line : Text}
    (hkeyword : firstWord (trim line) ∈ compoundKeywords) :
    opensCompound (trim line) = endsWith ':' (cleanLine line) := by
  rw [opensCompound, cleanLine_eq_trimEnd]
  cases hcolon : endsWith ':' (trimEnd (stripComment (trim line))) with
  | false => rfl
  | true =>
      rw [firstWord_of_colon hcolon, Bool.true_and, List.contains_iff_mem]
      exact hkeyword

/-! ## Decorations -/

/-- A line that may stand between a decorator and its definition: another
decorator, a comment or a blank line. -/
def isDecoration (line : Text) : Bool :=
  isBlank line || (trimStart line).head?.any fun c => c == '@' || c == '#'

theorem Draft.onlyDecorators_eq (draft : Draft) :
    draft.onlyDecorators = draft.lines.all isDecoration := rfl

theorem startsWithWord_of_isDecoration {line : Text} (hdecoration : isDecoration line = true) :
    startsWithWord (trim line) = false := by
  rw [isDecoration, Bool.or_eq_true, Option.any_eq_true, ← head?_trim] at hdecoration
  rcases hdecoration with hblank | ⟨c, hhead, hmark⟩
  · rw [trim_of_isBlank hblank]
    rfl
  · rw [Bool.or_eq_true, beq_iff_eq, beq_iff_eq] at hmark
    rw [startsWithWord, hhead]
    rcases hmark with rfl | rfl <;> decide

/-- A line that starts with the word of a header does not stand between a
decorator and its definition. -/
theorem isDecoration_eq_false_of_keyword {line : Text}
    (hkeyword : firstWord (trim line) ∈ compoundKeywords) : isDecoration line = false := by
  rw [Bool.eq_false_iff]
  intro hdecoration
  rw [firstWord_eq_nil (startsWithWord_of_isDecoration hdecoration)] at hkeyword
  revert hkeyword
  decide

theorem isDecoration_of_isSkippable {markers : MarkerSet} {line : Text}
    (hskip : isSkippable markers line = true) : isDecoration line = true := by
  rw [isSkippable, Bool.or_eq_true, Bool.and_eq_true, beq_iff_eq, head?_trim] at hskip
  rcases hskip with hblank | ⟨hhead, _⟩
  · simp [isDecoration, hblank]
  · simp [isDecoration, hhead]

theorem isSkippable_eq_false_of_opensCompound {markers : MarkerSet} {line : Text}
    (hopens : opensCompound (trim line) = true) : isSkippable markers line = false := by
  rw [Bool.eq_false_iff]
  intro hskip
  have hdecoration := isDecoration_of_isSkippable hskip
  rw [opensCompound_eq_false (startsWithWord_of_isDecoration hdecoration)] at hopens
  cases hopens

end InlineEval
