import InlineEval.Source.Scanner

/-! # A line read in two parts

The cursor looks ahead for two quotation marks and no further. So a line can be
cut wherever no such mark follows, and its parts read one after the other.
-/

namespace InlineEval

open Text

namespace Cursor

variable {cursor : Cursor} {c : Char} {line rest : Text}

/-- A cursor in front of the rest of a line. Only quotation marks delimit long
strings, and in code nothing is skipped that the line does not have. -/
structure Fits (cursor : Cursor) (rest : Text) : Prop where
  quoted : ∀ quote, cursor.context = .long quote → isQuote quote = true
  skip_le : cursor.context = .code ∨ cursor.context = .comment → cursor.skip ≤ rest.length

namespace Fits

theorem step (hfits : cursor.Fits (c :: rest)) : (cursor.step c rest).Fits rest := by
  obtain ⟨skip, context, depth⟩ := cursor
  obtain ⟨hquoted, hskip⟩ := hfits
  cases skip with
  | succ n => exact ⟨hquoted, fun hcode => Nat.le_of_succ_le_succ (hskip hcode)⟩
  | zero =>
      cases context with
      | comment => exact ⟨by simp [Cursor.step], by simp [Cursor.step]⟩
      | long quote =>
          simp only [Cursor.step]
          split
          next hclosed =>
            have hmarks := (List.isPrefixOf_iff_prefix.mp hclosed.2).length_le
            exact ⟨by simp, fun _ => hmarks⟩
          next hopen => split <;> exact ⟨hquoted, by simp⟩
      | short quote =>
          simp only [Cursor.step]
          split
          · exact ⟨by simp, by simp⟩
          · split <;> exact ⟨by simp, by simp⟩
      | code =>
          simp only [Cursor.step]
          split
          · exact ⟨by simp, by simp⟩
          · split
            next hquote =>
              split
              · exact ⟨by simp [hquote], by simp⟩
              · exact ⟨by simp, by simp⟩
            next hplain =>
              split
              · exact ⟨by simp, by simp⟩
              · split <;> exact ⟨by simp, by simp⟩

theorem run (hfits : cursor.Fits line) : (cursor.run line).Fits [] := by
  induction line generalizing cursor with
  | nil => exact hfits
  | cons c rest ih => exact ih hfits.step

end Fits

/-- Two marks in a row are not completed by a text that does not start with
one. -/
theorem isPrefixOf_append {quote : Char} (hquote : isQuote quote = true)
    (hnext : ∀ d ∈ rest.head?, isQuote d = false) (line : Text) :
    [quote, quote].isPrefixOf (line ++ rest) = [quote, quote].isPrefixOf line := by
  have hother : ∀ d ∈ rest.head?, quote ≠ d := by
    rintro d hd rfl
    rw [hnext quote hd] at hquote
    cases hquote
  match line, rest with
  | [], [] => rfl
  | [], d :: _ => simp [List.isPrefixOf, hother d rfl]
  | [_], [] => simp
  | [_], d :: _ => simp [List.isPrefixOf, hother d rfl]
  | _ :: _ :: _, _ => simp [List.isPrefixOf]

theorem step_append (hfits : cursor.Fits (c :: line))
    (hnext : ∀ d ∈ rest.head?, isQuote d = false) :
    cursor.step c (line ++ rest) = cursor.step c line := by
  obtain ⟨skip, context, depth⟩ := cursor
  cases skip with
  | succ n => rfl
  | zero =>
      cases context with
      | comment | short => rfl
      | long quote =>
          simp only [step, isPrefixOf_append (hfits.quoted quote rfl) hnext]
      | code =>
          cases hquote : isQuote c with
          | true => simp only [step, isPrefixOf_append hquote hnext]
          | false => simp [step, hquote]

theorem run_append (hfits : cursor.Fits line) (hnext : ∀ d ∈ rest.head?, isQuote d = false) :
    cursor.run (line ++ rest) = (cursor.run line).run rest := by
  induction line generalizing cursor with
  | nil => rfl
  | cons c line ih =>
      rw [List.cons_append, run, run, step_append hfits hnext]
      exact ih hfits.step

end Cursor

namespace Scanner

variable {scan : Scanner}

/-- Only quotation marks delimit the long string that is open. -/
def Quoted (scan : Scanner) : Prop := ∀ quote ∈ scan.long, isQuote quote = true

namespace Quoted

theorem fits (hquoted : scan.Quoted) (line : Text) : scan.cursor.Fits line where
  quoted quote hlong := by
    cases hopen : scan.long with
    | none => simp [cursor, hopen] at hlong
    | some mark =>
        simp only [cursor, hopen, Context.long.injEq] at hlong
        exact hlong ▸ hquoted mark hopen
  skip_le _ := Nat.zero_le _

theorem feed (hquoted : scan.Quoted) (line : Text) : (scan.feed line).Quoted := by
  intro quote hlong
  cases hcontext : (scan.cursor.run line).context with
  | long mark =>
      simp only [Scanner.feed, hcontext, Option.mem_def, Option.some.injEq] at hlong
      exact hlong ▸ (hquoted.fits line).run.quoted mark hcontext
  | code | short | comment => simp [Scanner.feed, hcontext] at hlong

theorem feedAll (hquoted : scan.Quoted) (lines : List Text) : (scan.feedAll lines).Quoted := by
  induction lines generalizing scan with
  | nil => exact hquoted
  | cons line rest ih => exact ih (hquoted.feed line)

end Quoted

theorem quoted_fresh : fresh.Quoted := nofun

end Scanner

end InlineEval
