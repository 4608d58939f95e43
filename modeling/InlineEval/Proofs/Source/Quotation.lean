import InlineEval.Proofs.Source.Comment

/-! # Two readings of quotation marks

The comment of a line is found by reading its quotation marks one by one, while
the scanner knows three marks that open and close a long string. Three marks one
by one come to the same as three at a time. But a mark that stands by itself
inside a long string ends a string in the first reading only, and then a hash
sign behind it is a comment in one of the readings and none in the other.
-/

namespace InlineEval

open Text

/-! ## Where the comment begins -/

namespace Surroundings

variable {around : Surroundings} {c : Char}

theorem step_eq_comment (hopen : around ≠ comment) (hstep : around.step c = comment) :
    around = code ∧ c = '#' := by
  cases around with
  | comment => exact absurd rfl hopen
  | escape quote => cases hstep
  | string quote =>
      simp only [step] at hstep
      split at hstep
      · cases hstep
      · split at hstep <;> cases hstep
  | code =>
      simp only [step] at hstep
      split at hstep
      next hhash => exact ⟨rfl, hhash⟩
      next => split at hstep <;> cases hstep

end Surroundings

/-- A comment that is stripped begins with a hash sign in code. -/
theorem exists_eq_stripFrom_append {around : Surroundings} (hopen : around ≠ .comment)
    {line : Text} (hcomment : around.atEnd line = .comment) :
    ∃ note, line = stripFrom around line ++ '#' :: note ∧
      around.atEnd (stripFrom around line) = .code := by
  induction line generalizing around with
  | nil => exact absurd hcomment hopen
  | cons c rest ih =>
      by_cases hnext : around.step c = .comment
      · obtain ⟨rfl, rfl⟩ := Surroundings.step_eq_comment hopen hnext
        exact ⟨rest, rfl, rfl⟩
      · obtain ⟨note, hrest, hcode⟩ := ih hnext hcomment
        have hstrip : stripFrom around (c :: rest) = c :: stripFrom (around.step c) rest := by
          simp only [stripFrom]
        refine ⟨note, ?_, ?_⟩
        · rw [hstrip, List.cons_append, ← hrest]
        · rw [hstrip]
          exact hcode

/-! ## Marks inside long strings -/

namespace Cursor

variable {cursor : Cursor} {c : Char} {rest : Text}

/-- Further on in the line a mark of its own kind stands by itself in a long
string, and somewhere behind it a hash sign. A mark does not stand by itself if
a backslash escapes it or if it is one of the three that close the string. -/
def meetsLoneMark (cursor : Cursor) : Text → Bool
  | [] => false
  | c :: rest =>
      (cursor.skip == 0 && cursor.context == .long c && !([c, c].isPrefixOf rest) &&
          rest.contains '#') ||
        (cursor.step c rest).meetsLoneMark rest

/-- In front of a hash sign no mark stands by itself if none is met. -/
theorem isPrefixOf_of_not_meetsLoneMark (hmarks : cursor.meetsLoneMark (c :: rest) = false)
    (hhash : '#' ∈ rest) (hskip : cursor.skip = 0) (hlong : cursor.context = .long c) :
    [c, c].isPrefixOf rest = true := by
  simp only [meetsLoneMark, Bool.or_eq_false_iff] at hmarks
  simpa [hhash, hskip, hlong] using hmarks.1

theorem not_meetsLoneMark_step (hmarks : cursor.meetsLoneMark (c :: rest) = false) :
    (cursor.step c rest).meetsLoneMark rest = false := by
  simp only [meetsLoneMark, Bool.or_eq_false_iff] at hmarks
  exact hmarks.2

/-- A comment begins with a hash sign in code only. -/
theorem step_context_ne_comment (hopen : cursor.context ≠ .comment)
    (hhash : c = '#' → cursor.context ≠ .code) : (cursor.step c rest).context ≠ .comment := by
  obtain ⟨skip, context, depth⟩ := cursor
  cases skip with
  | succ n => exact hopen
  | zero =>
      cases context with
      | comment => exact absurd rfl hopen
      | long quote =>
          simp only [step]
          split
          · simp
          · split <;> simp
      | short quote =>
          simp only [step]
          split
          · simp
          · split <;> simp
      | code =>
          have hother : c ≠ '#' := fun heq => hhash heq rfl
          simp only [step, if_neg hother]
          split
          · split <;> simp
          · split
            · simp
            · split <;> simp

theorem run_context_ne_comment {line : Text} (hopen : cursor.context ≠ .comment)
    (hfree : '#' ∉ line) : (cursor.run line).context ≠ .comment := by
  induction line generalizing cursor with
  | nil => exact hopen
  | cons c rest ih =>
      rw [List.mem_cons, not_or] at hfree
      exact ih (step_context_ne_comment hopen fun heq => absurd heq.symm hfree.1) hfree.2

end Cursor

/-! ## Both readings in step -/

/-- What surrounds the next character says the same as the cursor in front of it.
While the cursor skips the second and the third of three marks, the surroundings
go in and out of a string. -/
inductive InStep : Surroundings → Cursor → Text → Prop
  | code {depth : Nat} {rest : Text} : InStep .code ⟨0, .code, depth⟩ rest
  | comment {depth : Nat} {rest : Text} : InStep .comment ⟨0, .comment, depth⟩ rest
  | string {quote : Char} {context : Context} {depth : Nat} {rest : Text}
      (hquote : isQuote quote = true)
      (hinside : context = .short quote ∨ context = .long quote) :
      InStep (.string quote) ⟨0, context, depth⟩ rest
  | escape {quote : Char} {context : Context} {depth : Nat} {rest : Text}
      (hquote : isQuote quote = true)
      (hinside : context = .short quote ∨ context = .long quote) :
      InStep (.escape quote) ⟨1, context, depth⟩ rest
  | opensSecond {quote : Char} {depth : Nat} {rest : Text} (hquote : isQuote quote = true) :
      InStep (.string quote) ⟨2, .long quote, depth⟩ (quote :: quote :: rest)
  | opensThird {quote : Char} {depth : Nat} {rest : Text} (hquote : isQuote quote = true) :
      InStep .code ⟨1, .long quote, depth⟩ (quote :: rest)
  | closesSecond {quote : Char} {depth : Nat} {rest : Text} (hquote : isQuote quote = true) :
      InStep .code ⟨2, .code, depth⟩ (quote :: quote :: rest)
  | closesThird {quote : Char} {depth : Nat} {rest : Text} (hquote : isQuote quote = true) :
      InStep (.string quote) ⟨1, .code, depth⟩ (quote :: rest)

theorem ne_of_isQuote {quote : Char} (hquote : isQuote quote = true) :
    quote ≠ '\\' ∧ quote ≠ '#' := by
  constructor <;> rintro rfl <;> revert hquote <;> decide

namespace Surroundings

theorem step_code_quote {quote : Char} (hquote : isQuote quote = true) :
    code.step quote = string quote := by
  simp [step, hquote, (ne_of_isQuote hquote).2]

theorem step_string_quote {quote : Char} (hquote : isQuote quote = true) :
    (string quote).step quote = code := by
  simp [step, (ne_of_isQuote hquote).1]

end Surroundings

namespace InStep

variable {around : Surroundings} {cursor : Cursor} {c : Char} {before rest : Text}

/-- Both readings go on in step over a character, unless it is a mark that stands
by itself in a long string. -/
theorem step (hin : InStep around cursor (c :: rest))
    (hmark : cursor.skip = 0 → cursor.context = .long c → [c, c].isPrefixOf rest = true) :
    InStep (around.step c) (cursor.step c rest) rest := by
  cases hin with
  | comment => exact .comment
  | code =>
      by_cases hhash : c = '#'
      · subst hhash
        exact .comment
      · cases hquote : isQuote c with
        | false =>
            have hstays : Surroundings.code.step c = .code := by
              simp [Surroundings.step, hhash, hquote]
            rw [hstays]
            simp only [Cursor.step, hhash, hquote, if_false, Bool.false_eq_true]
            split
            · exact .code
            · split <;> exact .code
        | true =>
            rw [Surroundings.step_code_quote hquote]
            simp only [Cursor.step, hhash, hquote, if_false, if_true]
            split
            next hmarks =>
              obtain ⟨more, rfl⟩ := List.isPrefixOf_iff_prefix.mp hmarks
              exact .opensSecond hquote
            next => exact .string hquote (.inl rfl)
  | @string quote context depth _ hquote hinside =>
      by_cases hend : c = quote
      · subst hend
        rw [Surroundings.step_string_quote hquote]
        rcases hinside with rfl | rfl
        · have hcloses : (⟨0, .short c, depth⟩ : Cursor).step c rest = ⟨0, .code, depth⟩ := by
            simp [Cursor.step, (ne_of_isQuote hquote).1]
          rw [hcloses]
          exact .code
        · obtain ⟨more, rfl⟩ := List.isPrefixOf_iff_prefix.mp (hmark rfl rfl)
          have hcloses : (⟨0, .long c, depth⟩ : Cursor).step c (c :: c :: more) =
              ⟨2, .code, depth⟩ := by simp [Cursor.step]
          rw [List.cons_append, List.cons_append, List.nil_append, hcloses]
          exact .closesSecond hquote
      · by_cases hescape : c = '\\'
        · subst hescape
          have hescapes : (⟨0, context, depth⟩ : Cursor).step '\\' rest = ⟨1, context, depth⟩ := by
            rcases hinside with rfl | rfl <;> simp [Cursor.step, hend]
          rw [hescapes]
          exact .escape hquote hinside
        · have hstays : (Surroundings.string quote).step c = .string quote := by
            simp [Surroundings.step, hend, hescape]
          have hmoves : (⟨0, context, depth⟩ : Cursor).step c rest = ⟨0, context, depth⟩ := by
            rcases hinside with rfl | rfl <;> simp [Cursor.step, hend, hescape]
          rw [hstays, hmoves]
          exact .string hquote hinside
  | escape hquote hinside => exact .string hquote hinside
  | opensSecond hquote =>
      rw [Surroundings.step_string_quote hquote]
      exact .opensThird hquote
  | opensThird hquote =>
      rw [Surroundings.step_code_quote hquote]
      exact .string hquote (.inr rfl)
  | closesSecond hquote =>
      rw [Surroundings.step_code_quote hquote]
      exact .closesThird hquote
  | closesThird hquote =>
      rw [Surroundings.step_string_quote hquote]
      exact .code

/-- Up to a hash sign both readings stay in step, if no mark stands by itself in
front of it. -/
theorem run (hin : InStep around cursor (before ++ '#' :: rest)) (hfits : cursor.Fits before)
    (hmarks : cursor.meetsLoneMark (before ++ '#' :: rest) = false) :
    InStep (around.atEnd before) (cursor.run before) ('#' :: rest) := by
  induction before generalizing around cursor with
  | nil => exact hin
  | cons c before ih =>
      have hsame : cursor.step c (before ++ '#' :: rest) = cursor.step c before :=
        Cursor.step_append hfits (by rintro _ ⟨⟩; rfl)
      rw [List.cons_append] at hin hmarks
      have hnext := hin.step (Cursor.isPrefixOf_of_not_meetsLoneMark hmarks (by simp))
      have hlater := Cursor.not_meetsLoneMark_step hmarks
      rw [hsame] at hnext hlater
      exact ih hnext hfits.step hlater

/-- In front of a hash sign no mark is left over to be skipped. -/
theorem eq_code (hin : InStep .code cursor ('#' :: rest)) :
    cursor = ⟨0, .code, cursor.depth⟩ := by
  cases hin with
  | code => rfl
  | opensThird hquote | closesSecond hquote => exact absurd rfl (ne_of_isQuote hquote).2

theorem context_ne_comment (hin : InStep around cursor rest) (hopen : around ≠ .comment) :
    cursor.context ≠ .comment := by
  cases hin with
  | comment => exact absurd rfl hopen
  | string _ hinside | escape _ hinside => rcases hinside with rfl | rfl <;> simp
  | code | opensSecond | opensThird | closesSecond | closesThird => simp

/-- A hash sign that is in a string is not in code for the cursor either. -/
theorem context_ne_code (hin : InStep around cursor ('#' :: rest)) (hcode : around ≠ .code)
    (hopen : around ≠ .comment) : cursor.context ≠ .code := by
  cases hin with
  | code => exact absurd rfl hcode
  | comment => exact absurd rfl hopen
  | string _ hinside | escape _ hinside => rcases hinside with rfl | rfl <;> simp
  | opensSecond hquote | opensThird hquote | closesSecond hquote | closesThird hquote =>
      exact absurd rfl (ne_of_isQuote hquote).2

/-- The cursor finds no comment where none is to be stripped. -/
theorem run_context_ne_comment {line : Text} (hin : InStep around cursor line)
    (hmarks : cursor.meetsLoneMark line = false) (hopen : around.atEnd line ≠ .comment) :
    (cursor.run line).context ≠ .comment := by
  induction line generalizing around cursor with
  | nil => exact hin.context_ne_comment hopen
  | cons c rest ih =>
      by_cases hhash : '#' ∈ rest
      · have hnext := hin.step (Cursor.isPrefixOf_of_not_meetsLoneMark hmarks hhash)
        exact ih hnext (Cursor.not_meetsLoneMark_step hmarks) hopen
      · -- The last hash sign is behind; from here on marks may stand by themselves.
        have hstart : around ≠ .comment := by
          rintro rfl
          exact hopen (Surroundings.atEnd_comment (c :: rest))
        change ((cursor.step c rest).run rest).context ≠ .comment
        refine Cursor.run_context_ne_comment ?_ hhash
        refine Cursor.step_context_ne_comment (hin.context_ne_comment hstart) ?_
        rintro rfl
        refine hin.context_ne_code ?_ hstart
        rintro rfl
        exact hopen (Surroundings.atEnd_comment rest)

end InStep

/-! ## The comment of a line -/

namespace Scanner

variable {line : Text}

/-- The comment that is stripped begins where the scanner finds a comment too. -/
theorem exists_cut (hmarks : fresh.cursor.meetsLoneMark line = false)
    (hcomment : Surroundings.code.atEnd line = .comment) :
    ∃ note, line = stripComment line ++ '#' :: note ∧
      fresh.cursor.run (stripComment line) =
        ⟨0, .code, (fresh.cursor.run (stripComment line)).depth⟩ := by
  obtain ⟨note, hline, hcode⟩ := exists_eq_stripFrom_append (by simp) hcomment
  refine ⟨note, hline, ?_⟩
  have hin : InStep .code fresh.cursor (stripComment line ++ '#' :: note) := .code
  rw [hline] at hmarks
  have hend := hin.run (quoted_fresh.fits _) hmarks
  change InStep (Surroundings.code.atEnd (stripFrom .code line)) _ _ at hend
  rw [hcode] at hend
  exact hend.eq_code

/-- A line and its code open the same brackets and the same long string, if no
mark stands by itself in a long string in front of a hash sign. The code holds
nothing that the scanner takes for a comment, and what is stripped begins with
the hash sign of such a comment. -/
theorem feed_stripComment (hmarks : fresh.cursor.meetsLoneMark line = false) :
    (fresh.feed (stripComment line)).depth = (fresh.feed line).depth ∧
      (fresh.feed (stripComment line)).long = (fresh.feed line).long ∧
      (fresh.cursor.run (stripComment line)).context ≠ .comment ∧
      (stripComment line = line ∨ ∃ note, line = stripComment line ++ '#' :: note ∧
        (fresh.cursor.run (stripComment line ++ ['#'])).context = .comment) := by
  by_cases hcomment : Surroundings.code.atEnd line = .comment
  · obtain ⟨note, hline, hcode⟩ := exists_cut hmarks hcomment
    have hsplit : ∀ rest, fresh.cursor.run (stripComment line ++ '#' :: rest) =
        ⟨0, .comment, (fresh.cursor.run (stripComment line)).depth⟩ := by
      intro rest
      rw [Cursor.run_append (quoted_fresh.fits _) (by rintro _ ⟨⟩; rfl), hcode]
      exact Cursor.run_comment _ rest
    have hwhole : fresh.cursor.run line =
        ⟨0, .comment, (fresh.cursor.run (stripComment line)).depth⟩ := by
      conv_lhs => rw [hline]
      exact hsplit note
    have hcontext := congrArg Cursor.context hcode
    refine ⟨?_, ?_, ?_, .inr ⟨note, hline, ?_⟩⟩
    · simp [feed, hwhole]
    · simp [feed, hwhole, hcontext]
    · simp [hcontext]
    · rw [hsplit []]
  · have hline := stripComment_eq_self hcomment
    rw [hline]
    exact ⟨rfl, rfl, InStep.run_context_ne_comment .code hmarks hcomment, .inl rfl⟩

/-- Hash signs and brackets in strings of both kinds, and an escaped mark in the
long one. -/
theorem feed_stripComment_with_escaped_mark :
    let line := "f('#', \"\"\"(# \\\"\"\"\", [  # ]".toList
    fresh.cursor.meetsLoneMark line = false ∧
      stripComment line = "f('#', \"\"\"(# \\\"\"\"\", [  ".toList ∧
      (fresh.feed line).depth = 2 ∧ (fresh.feed (stripComment line)).depth = 2 ∧
      (fresh.feed line).long = none ∧ (fresh.feed (stripComment line)).long = none := by
  intro line
  have hmarks : fresh.cursor.meetsLoneMark line = false := by decide
  obtain ⟨hdepth, hlong, -, -⟩ := feed_stripComment hmarks
  rw [hdepth, hlong]
  decide

/-- A lone mark in a long string makes the hash sign behind it a comment, and the
end of the string is stripped. -/
theorem hash_stripped_behind_lone_mark :
    ¬ ∀ line : Text, (fresh.feed (stripComment line)).depth = (fresh.feed line).depth ∧
      (fresh.feed (stripComment line)).long = (fresh.feed line).long := by
  intro hclaim
  have hlong := (hclaim "s = \"\"\"5\" # 6\"\"\"".toList).2
  revert hlong
  decide

end Scanner

end InlineEval
