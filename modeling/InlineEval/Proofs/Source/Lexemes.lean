import InlineEval.Proofs.Source.Quotation

/-! # Code, strings and comments

A line can be read in pieces: code one character at a time, a string as a whole
and a comment up to the end of the line. There is one such reading of a line.
The scanner goes through all of it one character at a time. It ends up in the
same place, and it counts the brackets of what is read as code.
-/

namespace InlineEval

open Text

/-- What stands behind a string that a given mark closes, if the line does not
end before. A backslash takes the next character of the line with it. -/
def behindString? (mark : Text) : Text → Option Text
  | [] => none
  | c :: rest =>
      if mark.isPrefixOf (c :: rest) then some ((c :: rest).drop mark.length)
      else if c = '\\' then
        match rest with
        | [] => none
        | _ :: rest => behindString? mark rest
      else behindString? mark rest

/-- What is read of the rest of a line, in code or inside the long string of a
mark: the characters that are code, and what the line ends in. Three marks in a
row open a long string, and a string in single marks ends with the line. -/
inductive LineReading : Option Char → Text → Text → Context → Prop where
  | lineEnd : LineReading none [] [] .code
  | comment (note : Text) : LineReading none ('#' :: note) [] .comment
  | code {c : Char} {rest code : Text} {place : Context} (hhash : c ≠ '#')
      (hquote : isQuote c = false) (hrest : LineReading none rest code place) :
      LineReading none (c :: rest) (c :: code) place
  | string {quote : Char} {rest behind code : Text} {place : Context}
      (hquote : isQuote quote = true) (hshort : ¬ [quote, quote] <+: rest)
      (hclosed : behindString? [quote] rest = some behind)
      (hbehind : LineReading none behind code place) :
      LineReading none (quote :: rest) code place
  | openString {quote : Char} {rest : Text} (hquote : isQuote quote = true)
      (hshort : ¬ [quote, quote] <+: rest) (hopen : behindString? [quote] rest = none) :
      LineReading none (quote :: rest) [] (.short quote)
  | long {quote : Char} {rest code : Text} {place : Context} (hquote : isQuote quote = true)
      (hrest : LineReading (some quote) rest code place) :
      LineReading none (quote :: quote :: quote :: rest) code place
  | longClosed {quote : Char} {rest behind code : Text} {place : Context}
      (hclosed : behindString? [quote, quote, quote] rest = some behind)
      (hbehind : LineReading none behind code place) : LineReading (some quote) rest code place
  | longOpen {quote : Char} {rest : Text}
      (hopen : behindString? [quote, quote, quote] rest = none) :
      LineReading (some quote) rest [] (.long quote)

theorem length_behindString?_le {mark rest behind : Text}
    (hclosed : behindString? mark rest = some behind) :
    mark.length + behind.length ≤ rest.length := by
  fun_induction behindString? mark rest with
  | case1 => cases hclosed
  | case2 c rest hmark =>
      cases hclosed
      have hfits := (List.isPrefixOf_iff_prefix.mp hmark).length_le
      rw [List.length_drop]
      omega
  | case3 => cases hclosed
  | case4 _ _ _ ih =>
      have hlater := ih hclosed
      simp only [List.length_cons]
      omega
  | case5 _ _ _ _ ih => exact Nat.le_succ_of_le (ih hclosed)

namespace LineReading

variable {inside : Option Char} {line code other : Text} {place place' : Context}

/-- A string can be read, of either kind, if what is no longer than its rest can. -/
theorem exists_reading_string {quote : Char} {rest : Text} (hquote : isQuote quote = true)
    (hlater : ∀ inside (later : Text), later.length ≤ rest.length →
      ∃ code place, LineReading inside later code place) :
    ∃ code place, LineReading none (quote :: rest) code place := by
  by_cases hlong : [quote, quote] <+: rest
  · obtain ⟨more, rfl⟩ := hlong
    obtain ⟨code, place, hrest⟩ := hlater (some quote) more (List.suffix_append _ _).length_le
    exact ⟨code, place, .long hquote hrest⟩
  · cases hends : behindString? [quote] rest with
    | none => exact ⟨_, _, .openString hquote hlong hends⟩
    | some behind =>
        have hshorter := length_behindString?_le hends
        obtain ⟨code, place, hbehind⟩ := hlater none behind (by omega)
        exact ⟨code, place, .string hquote hlong hends hbehind⟩

/-- Every line can be read. -/
theorem exists_reading (inside : Option Char) (line : Text) :
    ∃ code place, LineReading inside line code place := by
  induction hlength : line.length using Nat.strongRecOn generalizing inside line with
  | _ n ih =>
      subst hlength
      have hlater : ∀ inside (later : Text), later.length < line.length →
          ∃ code place, LineReading inside later code place :=
        fun inside later hshorter => ih later.length hshorter inside later rfl
      match inside, line with
      | some quote, line =>
          cases hends : behindString? [quote, quote, quote] line with
          | none => exact ⟨_, _, .longOpen hends⟩
          | some behind =>
              have hshorter := length_behindString?_le hends
              simp only [List.length_cons, List.length_nil] at hshorter
              obtain ⟨code, place, hbehind⟩ := hlater none behind (by omega)
              exact ⟨code, place, .longClosed hends hbehind⟩
      | none, [] => exact ⟨_, _, .lineEnd⟩
      | none, c :: rest =>
          by_cases hhash : c = '#'
          · subst hhash
            exact ⟨_, _, .comment rest⟩
          · cases hquote : isQuote c with
            | false =>
                obtain ⟨code, place, hrest⟩ := hlater none rest (Nat.lt_succ_self _)
                exact ⟨_, _, .code hhash hquote hrest⟩
            | true =>
                refine exists_reading_string hquote fun inside later hshorter => ?_
                exact hlater inside later (Nat.lt_succ_of_le hshorter)

theorem unique (hreading : LineReading inside line code place)
    (hother : LineReading inside line other place') : code = other ∧ place = place' := by
  induction hreading generalizing other place' with
  | lineEnd =>
      cases hother
      exact ⟨rfl, rfl⟩
  | comment =>
      cases hother with
      | comment => exact ⟨rfl, rfl⟩
      | code hhash => exact absurd rfl hhash
      | string hquote | openString hquote | long hquote => cases hquote
  | code hhash hquote _ ih =>
      cases hother with
      | comment => exact absurd rfl hhash
      | code _ _ hrest => exact (ih hrest).imp_left (congrArg _)
      | string hmark | openString hmark | long hmark => rw [hquote] at hmark; cases hmark
  | string hquote hshort hclosed _ ih =>
      cases hother with
      | comment => cases hquote
      | code _ hplain => rw [hquote] at hplain; cases hplain
      | string _ _ hends hbehind =>
          rw [hclosed, Option.some_inj] at hends
          exact ih (hends ▸ hbehind)
      | openString _ _ hends => rw [hclosed] at hends; cases hends
      | long => exact absurd (List.prefix_append [_, _] _) hshort
  | openString hquote hshort hopen =>
      cases hother with
      | comment => cases hquote
      | code _ hplain => rw [hquote] at hplain; cases hplain
      | string _ _ hends => rw [hopen] at hends; cases hends
      | openString => exact ⟨rfl, rfl⟩
      | long => exact absurd (List.prefix_append [_, _] _) hshort
  | long hquote _ ih =>
      cases hother with
      | comment => cases hquote
      | code _ hplain => rw [hquote] at hplain; cases hplain
      | string _ hshort | openString _ hshort => exact absurd (List.prefix_append [_, _] _) hshort
      | long _ hrest => exact ih hrest
  | longClosed hclosed _ ih =>
      cases hother with
      | longClosed hends hbehind =>
          rw [hclosed, Option.some_inj] at hends
          exact ih (hends ▸ hbehind)
      | longOpen hends => rw [hclosed] at hends; cases hends
  | longOpen hopen =>
      cases hother with
      | longClosed hends => rw [hopen] at hends; cases hends
      | longOpen => exact ⟨rfl, rfl⟩

end LineReading

/-! ## The scanner reads the same -/

/-- The number of open brackets behind a character of code. -/
def nest (depth : Nat) (c : Char) : Nat :=
  if isOpening c then depth + 1 else if isClosing c then depth - 1 else depth

namespace Context

/-- Where a line begins. -/
def ofLong : Option Char → Context
  | none => code
  | some quote => long quote

/-- The mark of the long string that is left open. -/
def long? : Context → Option Char
  | long quote => some quote
  | _ => none

end Context

namespace Cursor

/-- What a cursor says at the end of a line. Skipping does not go on in the next
one. -/
def standing (cursor : Cursor) : Context × Nat := (cursor.context, cursor.depth)

variable {context : Context} {mark rest : Text} {depth : Nat}

/-- In this context the cursor stands inside a string that the mark closes. -/
structure Delimits (context : Context) (mark : Text) : Prop where
  run_close : ∀ behind depth, (⟨0, context, depth⟩ : Cursor).run (mark ++ behind) =
    (⟨0, .code, depth⟩ : Cursor).run behind
  step_escape : ∀ rest depth, ¬ mark <+: '\\' :: rest →
    (⟨0, context, depth⟩ : Cursor).step '\\' rest = ⟨1, context, depth⟩
  step_other : ∀ c rest depth, ¬ mark <+: c :: rest → c ≠ '\\' →
    (⟨0, context, depth⟩ : Cursor).step c rest = ⟨0, context, depth⟩

theorem delimits_short {quote : Char} (hquote : isQuote quote = true) :
    Delimits (.short quote) [quote] where
  run_close behind depth := by
    have hmark := (ne_of_isQuote hquote).1
    simp [run, step, hmark]
  step_escape rest depth _ := by simp [step]
  step_other c rest depth hopen hplain := by
    have hother : c ≠ quote := by
      rintro rfl
      exact hopen (List.prefix_append [c] rest)
    simp [step, hplain, hother]

/-- What does not close a long string is no mark with two more behind it. -/
theorem not_closes_long {quote c : Char} (hopen : ¬ [quote, quote, quote] <+: c :: rest) :
    ¬ (c = quote ∧ [quote, quote].isPrefixOf rest = true) := by
  rintro ⟨rfl, hmarks⟩
  exact hopen (List.cons_prefix_cons.mpr ⟨rfl, List.isPrefixOf_iff_prefix.mp hmarks⟩)

theorem delimits_long (quote : Char) : Delimits (.long quote) [quote, quote, quote] where
  run_close behind depth := by simp [run, step]
  step_escape rest depth hopen := by simp only [step, if_neg (not_closes_long hopen), if_true]
  step_other c rest depth hopen hplain := by
    simp only [step, if_neg (not_closes_long hopen), if_neg hplain]

/-- Over a string and on behind it, or up to the end of the line. -/
theorem Delimits.standing_run (hdelimits : Delimits context mark) (rest : Text) (depth : Nat) :
    ((⟨0, context, depth⟩ : Cursor).run rest).standing =
      (behindString? mark rest).elim (context, depth)
        fun behind => ((⟨0, .code, depth⟩ : Cursor).run behind).standing := by
  fun_induction behindString? mark rest with
  | case1 => rfl
  | case2 c rest hmark =>
      obtain ⟨behind, hbehind⟩ := List.isPrefixOf_iff_prefix.mp hmark
      rw [← hbehind, hdelimits.run_close, List.drop_left]
      rfl
  | case3 hopen =>
      rw [List.isPrefixOf_iff_prefix] at hopen
      rw [run, hdelimits.step_escape [] depth hopen]
      rfl
  | case4 d rest hopen ih =>
      rw [List.isPrefixOf_iff_prefix] at hopen
      rw [run, hdelimits.step_escape _ depth hopen]
      exact ih
  | case5 c rest hopen hplain ih =>
      rw [List.isPrefixOf_iff_prefix] at hopen
      rw [run, hdelimits.step_other c rest depth hopen hplain]
      exact ih

theorem standing_run_closed (hdelimits : Delimits context mark) {behind : Text}
    (hclosed : behindString? mark rest = some behind) (depth : Nat) :
    ((⟨0, context, depth⟩ : Cursor).run rest).standing =
      ((⟨0, .code, depth⟩ : Cursor).run behind).standing := by
  rw [hdelimits.standing_run, hclosed]
  rfl

theorem standing_run_open (hdelimits : Delimits context mark)
    (hopen : behindString? mark rest = none) (depth : Nat) :
    ((⟨0, context, depth⟩ : Cursor).run rest).standing = (context, depth) := by
  rw [hdelimits.standing_run, hopen]
  rfl

theorem step_short {quote : Char} (hquote : isQuote quote = true)
    (hshort : ¬ [quote, quote] <+: rest) (depth : Nat) :
    (⟨0, .code, depth⟩ : Cursor).step quote rest = ⟨0, .short quote, depth⟩ := by
  rw [← List.isPrefixOf_iff_prefix] at hshort
  simp only [step, if_neg (ne_of_isQuote hquote).2, hquote, if_neg hshort, if_true]

theorem run_long {quote : Char} (hquote : isQuote quote = true) (rest : Text) (depth : Nat) :
    (⟨0, .code, depth⟩ : Cursor).run (quote :: quote :: quote :: rest) =
      (⟨0, .long quote, depth⟩ : Cursor).run rest := by
  simp [run, step, (ne_of_isQuote hquote).2, hquote]

theorem step_code {c : Char} (hhash : c ≠ '#') (hquote : isQuote c = false) (rest : Text)
    (depth : Nat) : (⟨0, .code, depth⟩ : Cursor).step c rest = ⟨0, .code, nest depth c⟩ := by
  simp only [step, if_neg hhash, hquote, nest]
  split
  · contradiction
  · split
    · rfl
    · split <;> rfl

end Cursor

namespace LineReading

/-- The cursor comes to the end of the line in the place that is read, and has
counted the brackets of the code. -/
theorem standing_run {inside : Option Char} {line code : Text} {place : Context}
    (hreading : LineReading inside line code place) (depth : Nat) :
    ((⟨0, .ofLong inside, depth⟩ : Cursor).run line).standing = (place, code.foldl nest depth) := by
  induction hreading generalizing depth with
  | lineEnd => rfl
  | comment note =>
      exact congrArg Cursor.standing (Cursor.run_comment depth note)
  | @code c rest code place hhash hquote _ ih =>
      rw [Context.ofLong, Cursor.run, Cursor.step_code hhash hquote]
      exact ih (nest depth c)
  | string hquote hshort hclosed _ ih =>
      have hdelimits := Cursor.delimits_short hquote
      rw [Context.ofLong, Cursor.run, Cursor.step_short hquote hshort,
        Cursor.standing_run_closed hdelimits hclosed]
      exact ih depth
  | openString hquote hshort hopen =>
      have hdelimits := Cursor.delimits_short hquote
      rw [Context.ofLong, Cursor.run, Cursor.step_short hquote hshort]
      exact Cursor.standing_run_open hdelimits hopen depth
  | long hquote _ ih =>
      rw [Context.ofLong, Cursor.run_long hquote]
      exact ih depth
  | @longClosed quote rest behind code place hclosed _ ih =>
      have hdelimits := Cursor.delimits_long quote
      rw [Context.ofLong, Cursor.standing_run_closed hdelimits hclosed]
      exact ih depth
  | @longOpen quote rest hopen =>
      exact Cursor.standing_run_open (Cursor.delimits_long quote) hopen depth

/-- What the scanner makes of a line can be told from its reading. -/
theorem feed_eq {scan : Scanner} {line code : Text} {place : Context}
    (hreading : LineReading scan.long line code place) :
    scan.feed line = ⟨code.foldl nest scan.depth, place.long?,
      place == .code && endsWith '\\' (trimEnd line)⟩ := by
  have hstart : scan.cursor = ⟨0, .ofLong scan.long, scan.depth⟩ := by
    obtain ⟨depth, long, backslash⟩ := scan
    cases long <;> rfl
  have hend := hreading.standing_run scan.depth
  rw [← hstart, Cursor.standing, Prod.mk.injEq] at hend
  simp only [Scanner.feed, hend.1, hend.2]
  cases place <;> rfl

end LineReading

/-- What is read of several lines in order. A long string may go on from one line
to the next, and nothing else does. -/
inductive Reading : Option Char → List Text → Text → Prop where
  | nil (inside : Option Char) : Reading inside [] []
  | cons {inside : Option Char} {line code more : Text} {lines : List Text} {place : Context}
      (hline : LineReading inside line code place) (hlines : Reading place.long? lines more) :
      Reading inside (line :: lines) (code ++ more)

namespace Reading

theorem exists_reading (inside : Option Char) (lines : List Text) :
    ∃ code, Reading inside lines code := by
  induction lines generalizing inside with
  | nil => exact ⟨_, .nil inside⟩
  | cons line rest ih =>
      obtain ⟨code, place, hline⟩ := LineReading.exists_reading inside line
      obtain ⟨more, hrest⟩ := ih place.long?
      exact ⟨_, .cons hline hrest⟩

theorem unique {inside : Option Char} {lines : List Text} {code other : Text}
    (hreading : Reading inside lines code) (hother : Reading inside lines other) : code = other := by
  induction hreading generalizing other with
  | nil =>
      cases hother
      rfl
  | cons hline _ ih =>
      cases hother with
      | cons hline' hlines' =>
          obtain ⟨rfl, rfl⟩ := hline.unique hline'
          rw [ih hlines']

/-- Over any number of lines the scanner counts the brackets of the code. -/
theorem depth_feedAll {scan : Scanner} {lines : List Text} {code : Text}
    (hreading : Reading scan.long lines code) :
    (scan.feedAll lines).depth = code.foldl nest scan.depth := by
  induction lines generalizing scan code with
  | nil =>
      cases hreading
      rfl
  | cons line rest ih =>
      cases hreading with
      | @cons _ _ code more _ place hline hlines =>
          have hfeed := hline.feed_eq
          have hlong : (scan.feed line).long = place.long? := by rw [hfeed]
          have hrest := ih (hlong ▸ hlines)
          rw [Scanner.feedAll, List.foldl_cons, ← Scanner.feedAll, hrest, List.foldl_append, hfeed]

end Reading

end InlineEval
