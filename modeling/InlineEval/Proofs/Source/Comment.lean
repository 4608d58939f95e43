import InlineEval.Proofs.Source.Scanner
import InlineEval.Proofs.Source.Statement

/-! # A comment behind a line

A comment that is added behind a line of code changes nothing of what can be
told of the line: neither its code nor what that code opens, and not what it
leaves unfinished.
-/

namespace InlineEval

open Text

/-- A line with a comment behind it. -/
def withComment (line note : Text) : Text := line ++ "  #".toList ++ note

variable {line : Text}

/-! ## The code of the line -/

theorem Surroundings.atEnd_comment (line : Text) : comment.atEnd line = comment := by
  induction line with
  | nil => rfl
  | cons c rest ih => exact ih

theorem Surroundings.atEnd_blank_append {space : Text} (hblank : isBlank space = true)
    (rest : Text) : code.atEnd (space ++ rest) = code.atEnd rest := by
  induction space with
  | nil => rfl
  | cons c space ih =>
      have hspace := isBlank_iff.mp hblank
      have hother := ne_of_isSpace (hspace c List.mem_cons_self)
      simp only [List.mem_cons, List.not_mem_nil, or_false, forall_eq_or_imp, forall_eq] at hother
      have hstep : code.step c = code := by simp [step, isQuote, hother]
      change (code.step c).atEnd (space ++ rest) = _
      rw [hstep]
      exact ih (isBlank_iff.mpr fun d hd => hspace d (List.mem_cons_of_mem c hd))

/-- Once a comment has begun, the rest is stripped with it; until then nothing
is. -/
theorem stripFrom_append (around : Surroundings) (line rest : Text) :
    stripFrom around (line ++ rest) =
      if around.atEnd line = .comment then stripFrom around line
      else line ++ stripFrom (around.atEnd line) rest := by
  induction line generalizing around with
  | nil =>
      cases around with
      | comment => cases rest <;> rfl
      | _ => rfl
  | cons c line ih =>
      have hend : around.atEnd (c :: line) = (around.step c).atEnd line := rfl
      simp only [List.cons_append, stripFrom, hend]
      cases hnext : around.step c with
      | comment => simp [Surroundings.atEnd_comment]
      | _ => simp only [ih]; split <;> rfl

theorem stripComment_eq_self (hcode : Surroundings.code.atEnd line ≠ .comment) :
    stripComment line = line := by
  have happend := stripFrom_append .code line []
  rwa [if_neg hcode, List.append_nil, stripFrom, List.append_nil] at happend

/-- White space at the end of a line may be trimmed before or after its
comment is. -/
theorem trimEnd_stripComment_trimEnd (line : Text) :
    trimEnd (stripComment (trimEnd line)) = trimEnd (stripComment line) := by
  obtain ⟨space, hblank, hline⟩ := exists_eq_trimEnd_append line
  have hstrip := stripFrom_append .code (trimEnd line) space
  rw [← hline] at hstrip
  split at hstrip
  next hcomment => rw [stripComment, stripComment, hstrip]
  next hcode =>
    have hbegins := stripFrom_prefix (Surroundings.code.atEnd (trimEnd line)) space
    have hrest : isBlank (stripFrom (Surroundings.code.atEnd (trimEnd line)) space) = true :=
      isBlank_iff.mpr fun c hc => isBlank_iff.mp hblank c (hbegins.subset hc)
    rw [stripComment_eq_self hcode, stripComment, hstrip, trimEnd_append_blank hrest]

/-- The comment that is added is stripped again, down to the white space in
front of it. -/
theorem trimEnd_stripComment_withComment
    (hquotes : Surroundings.code.atEnd line = .code ∨ Surroundings.code.atEnd line = .comment)
    (note : Text) :
    trimEnd (stripComment (withComment line note)) = trimEnd (stripComment line) := by
  have hstrip := stripFrom_append .code line ("  #".toList ++ note)
  rw [← List.append_assoc] at hstrip
  rcases hquotes with hcode | hcomment
  · have hspaces : stripFrom .code ("  #".toList ++ note) = "  ".toList := rfl
    have hopen : Surroundings.code.atEnd line ≠ .comment := by simp [hcode]
    rw [if_neg hopen, hcode, hspaces] at hstrip
    rw [stripComment_eq_self hopen, stripComment, withComment, hstrip,
      trimEnd_append_blank (by decide)]
  · rw [if_pos hcomment] at hstrip
    rw [stripComment, withComment, hstrip, stripComment]

theorem trim_withComment (hkeep : isBlank line = false) (note : Text) :
    trim (withComment line note) = withComment (trimStart line) (trimEnd note) := by
  have hhash : isSpace '#' = false := by decide
  have hcut : ∀ code note : Text, withComment code note = (code ++ "  ".toList) ++ '#' :: note := by
    intro code note
    simp [withComment]
  rw [hcut, hcut, trim, List.append_assoc, trimStart_append hkeep, ← List.append_assoc,
    trimEnd_append_cons hhash]

/-- The code of a line is the same with a comment behind it. -/
theorem trimEnd_stripComment_trim_withComment (hkeep : isBlank line = false)
    (hquotes : Surroundings.code.atEnd line = .code ∨ Surroundings.code.atEnd line = .comment)
    (note : Text) :
    trimEnd (stripComment (trim (withComment line note))) =
      trimEnd (stripComment (trim line)) := by
  have hstart : Surroundings.code.atEnd line = Surroundings.code.atEnd (trimStart line) := by
    have hline : line.takeWhile isSpace ++ trimStart line = line :=
      List.takeWhile_append_dropWhile
    rw [← hline, Surroundings.atEnd_blank_append List.all_takeWhile, hline]
  rw [hstart] at hquotes
  rw [trim_withComment hkeep, trimEnd_stripComment_withComment hquotes, trim,
    trimEnd_stripComment_trimEnd]

theorem cleanLine_withComment (hkeep : isBlank line = false)
    (hquotes : Surroundings.code.atEnd line = .code ∨ Surroundings.code.atEnd line = .comment)
    (note : Text) : cleanLine (withComment line note) = cleanLine line := by
  rw [cleanLine, ← trim_trimEnd, trimEnd_stripComment_trim_withComment hkeep hquotes,
    trim_trimEnd, cleanLine]

theorem opensCompound_withComment (hkeep : isBlank line = false)
    (hquotes : Surroundings.code.atEnd line = .code ∨ Surroundings.code.atEnd line = .comment)
    (note : Text) :
    opensCompound (trim (withComment line note)) = opensCompound (trim line) := by
  simp only [opensCompound, trimEnd_stripComment_trim_withComment hkeep hquotes]

/-- What the first word of a line is can be told from its code, if the line is
a header at all. -/
theorem isClause_withComment (hkeep : isBlank line = false)
    (hquotes : Surroundings.code.atEnd line = .code ∨ Surroundings.code.atEnd line = .comment)
    (note : Text) : isClause (trim (withComment line note)) = isClause (trim line) := by
  have hsame := opensCompound_withComment hkeep hquotes note
  rw [isClause, isClause, hsame]
  cases hopens : opensCompound (trim line) with
  | false => rfl
  | true =>
      rw [← firstWord_of_opensCompound (hsame.trans hopens),
        trimEnd_stripComment_trim_withComment hkeep hquotes, firstWord_of_opensCompound hopens]

/-! ## The start of the line -/

theorem indentation_withComment (hkeep : isBlank line = false) (note : Text) :
    indentation (withComment line note) = indentation line := by
  rw [indentation, withComment, List.append_assoc, takeWhile_isSpace_append hkeep, indentation]

theorem isBlank_withComment (hkeep : isBlank line = false) (note : Text) :
    isBlank (withComment line note) = false := by
  rw [withComment, List.append_assoc]
  exact isBlank_append_eq_false hkeep _

theorem head?_trimStart_withComment (hkeep : isBlank line = false) (note : Text) :
    (trimStart (withComment line note)).head? = (trimStart line).head? := by
  have hstart : trimStart line ≠ [] := by
    intro hnil
    rw [trimStart, List.dropWhile_eq_nil_iff, ← isBlank_iff, hkeep] at hnil
    cases hnil
  rw [withComment, List.append_assoc, trimStart_append hkeep, List.head?_append_of_ne_nil _ hstart]

theorem isDecoration_withComment (hkeep : isBlank line = false) (note : Text) :
    isDecoration (withComment line note) = isDecoration line := by
  rw [isDecoration, isDecoration, head?_trimStart_withComment hkeep, isBlank_withComment hkeep,
    hkeep]

/-! ## The end of the line -/

/-- Behind the line no string is open, neither a short one nor a long one, and
no backslash joins it to the next line. Brackets may be open. -/
structure Scanner.Closes (scan : Scanner) (line : Text) : Prop where
  context : (scan.cursor.run line).context = .code ∨ (scan.cursor.run line).context = .comment
  backslash : (scan.feed line).backslash = false

/-- The cursor comes to the comment with nothing to skip, and from there on it
only moves. -/
theorem Scanner.Closes.feed_withComment {scan : Scanner} (hcloses : scan.Closes line)
    (hquoted : scan.Quoted) (note : Text) : scan.feed (withComment line note) = scan.feed line := by
  have hfits := hquoted.fits line
  have hsplit : scan.cursor.run (withComment line note) =
      (scan.cursor.run line).run ("  #".toList ++ note) := by
    rw [withComment, List.append_assoc]
    refine Cursor.run_append hfits ?_
    intro d hd
    cases hd
    decide
  have hskip : (scan.cursor.run line).skip = 0 :=
    Nat.eq_zero_of_le_zero (hfits.run.skip_le hcloses.context)
  have hbackslash := hcloses.backslash
  simp only [Scanner.feed, hsplit] at hbackslash ⊢
  rw [hbackslash]
  have hcontext := hcloses.context
  generalize scan.cursor.run line = final at hskip hcontext ⊢
  obtain ⟨skip, context, depth⟩ := final
  cases hskip
  rcases hcontext with hcode | hcomment
  · cases hcode
    have hcomment : (⟨0, .code, depth⟩ : Cursor).run ("  #".toList ++ note) =
        ⟨0, .comment, depth⟩ := by
      change (⟨0, .code, depth⟩ : Cursor).run ("  ".toList ++ '#' :: note) = _
      rw [Cursor.run_blank (by decide)]
      exact Cursor.run_comment depth note
    rw [hcomment]
    rfl
  · cases hcomment
    rw [Cursor.run_comment]
    rfl

end InlineEval
