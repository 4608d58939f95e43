import InlineEval.Interpreter.Capture
import InlineEval.Proofs.Text.Lines
import InlineEval.Proofs.Text.Natural
import InlineEval.Proofs.Text.Trim

/-! # Lines of captured output

A program that prints one line at a time is reported with as many lines as it
printed, since stripping takes nothing but parts of the first and the last one.
Where lines are left out, the report has one line more than it shows.
-/

namespace InlineEval.Interpreter

open Text

/-- Printed text on one line, not all of which is stripped. -/
def IsPrintedLine (t : Text) : Prop := '\n' ∉ t ∧ ∃ c ∈ t, isStripped c = false

instance (t : Text) : Decidable (IsPrintedLine t) :=
  decidable_of_iff ('\n' ∉ t ∧ t.all isStripped = false) (by simp [IsPrintedLine])

theorem mem_dropWhile_isStripped {c : Char} {t : Text} (hc : c ∈ t)
    (hkeep : isStripped c = false) : c ∈ t.dropWhile isStripped := by
  rw [← List.takeWhile_append_dropWhile (p := isStripped) (l := t)] at hc
  refine (List.mem_append.mp hc).resolve_left fun hmem => ?_
  rw [List.mem_takeWhile_imp hmem] at hkeep
  cases hkeep

/-- What is left of a printed line is printed on one line. -/
theorem IsPrintedLine.dropWhile {t : Text} (hprinted : IsPrintedLine t) :
    IsPrintedLine (t.dropWhile isStripped) := by
  obtain ⟨hfree, c, hc, hkeep⟩ := hprinted
  exact ⟨fun hmem => hfree ((List.dropWhile_suffix _).subset hmem), c,
    mem_dropWhile_isStripped hc hkeep, hkeep⟩

/-- No newline is stripped from in front of a printed line. -/
theorem IsPrintedLine.count_dropWhile {first : Text} (hfirst : IsPrintedLine first)
    (behind : Text) :
    ((first ++ behind).dropWhile isStripped).count '\n' = (first ++ behind).count '\n' := by
  rw [dropWhile_append_of_exists hfirst.2, List.count_append, List.count_append,
    List.count_eq_zero.mpr hfirst.dropWhile.1, List.count_eq_zero.mpr hfirst.1]

theorem IsPrintedLine.reverse {t : Text} (hprinted : IsPrintedLine t) :
    IsPrintedLine t.reverse := by
  obtain ⟨hfree, c, hc, hkeep⟩ := hprinted
  exact ⟨fun hmem => hfree (List.mem_reverse.mp hmem), c, List.mem_reverse.mpr hc, hkeep⟩

/-- Stripping keeps every newline between the first printed line and the last. -/
theorem count_strip {t first behind before last : Text} (hfirst : IsPrintedLine first)
    (hlast : IsPrintedLine last) (hbegins : t = first ++ behind) (hends : t = before ++ last) :
    (strip t).count '\n' = t.count '\n' := by
  have hstart : (t.dropWhile isStripped).count '\n' = t.count '\n' := by
    rw [hbegins]
    exact hfirst.count_dropWhile behind
  -- The last line still ends the text once its beginning has been stripped.
  obtain ⟨kept, ending, hending, hsplit⟩ : ∃ kept ending, IsPrintedLine ending ∧
      t.dropWhile isStripped = kept ++ ending := by
    rw [hends, List.dropWhile_append]
    split
    · exact ⟨[], _, hlast.dropWhile, rfl⟩
    · exact ⟨_, last, hlast, rfl⟩
  rw [strip, List.count_reverse, hsplit, List.reverse_append,
    hending.reverse.count_dropWhile, ← List.reverse_append, List.count_reverse, ← hsplit, hstart]

theorem newline_not_mem_elision (more : Nat) : '\n' ∉ elision more := by
  -- No equation of the definition is used: to prove one is slow on texts as long as these.
  intro hmem
  rcases List.mem_append.mp hmem with hmem | hend
  · rcases List.mem_append.mp hmem with hbegin | hdigit
    · revert hbegin
      decide
    · cases isDigit_of_mem_ofNat hdigit
  · revert hend
    decide

theorem length_split_strip {printed : List Text} (hne : printed ≠ [])
    (hprinted : ∀ text ∈ printed, IsPrintedLine text) :
    (split '\n' (strip (joinLines printed))).length = printed.length := by
  obtain ⟨first, rest, hfirst⟩ := List.exists_cons_of_ne_nil hne
  obtain ⟨behind, hbegins⟩ := exists_joinLines_cons first rest
  obtain ⟨before, hends⟩ := exists_joinLines_concat printed.dropLast (printed.getLast hne)
  rw [List.dropLast_append_getLast hne] at hends
  rw [← hfirst] at hbegins
  have hcount := count_strip (hprinted first (hfirst ▸ List.mem_cons_self))
    (hprinted _ (List.getLast_mem hne)) hbegins hends
  rw [length_split, hcount, ← length_split,
    split_joinLines hne fun text htext => (hprinted text htext).1]

theorem strip_ne_nil {printed : List Text} (hne : printed ≠ [])
    (hprinted : ∀ text ∈ printed, IsPrintedLine text) : strip (joinLines printed) ≠ [] := by
  obtain ⟨first, rest, rfl⟩ := List.exists_cons_of_ne_nil hne
  obtain ⟨behind, hbegins⟩ := exists_joinLines_cons first rest
  obtain ⟨-, c, hc, hkeep⟩ := hprinted first List.mem_cons_self
  have hmem : c ∈ strip (joinLines (first :: rest)) := by
    rw [hbegins, strip, List.mem_reverse]
    refine mem_dropWhile_isStripped (List.mem_reverse.mpr ?_) hkeep
    exact mem_dropWhile_isStripped (List.mem_append_left behind hc) hkeep
  exact List.ne_nil_of_mem hmem

/-- The report has a line for each printed one, or the lines that it shows and
the note of the others. -/
theorem exists_reportedOutput {printed : List Text} (hne : printed ≠ [])
    (hprinted : ∀ text ∈ printed, IsPrintedLine text) :
    ∃ output, reportedOutput? (joinLines printed) = some output ∧
      (split '\n' output).length = min printed.length (shownLines + 1) := by
  have hlength := length_split_strip hne hprinted
  have hsome : (strip (joinLines printed)).isEmpty = false :=
    List.isEmpty_eq_false_iff.mpr (strip_ne_nil hne hprinted)
  unfold reportedOutput?
  simp only [hsome, hlength, Bool.false_eq_true, if_false]
  by_cases hmany : shownLines < printed.length
  · rw [if_pos hmany]
    refine ⟨_, rfl, ?_⟩
    have hne : (split '\n' (strip (joinLines printed))).take shownLines ++
        [elision (printed.length - shownLines)] ≠ [] :=
      List.append_ne_nil_of_right_ne_nil _ (List.cons_ne_nil _ _)
    rw [split_joinLines hne, List.length_append, List.length_take, hlength, List.length_singleton]
    · omega
    · intro line hline
      rcases List.mem_append.mp hline with hshown | hnote
      · exact not_mem_of_mem_split (List.mem_of_mem_take hshown)
      · rw [List.mem_singleton.mp hnote]
        exact newline_not_mem_elision _
  · rw [if_neg hmany]
    exact ⟨_, rfl, by rw [hlength]; omega⟩

end InlineEval.Interpreter
