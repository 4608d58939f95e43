import InlineEval.Proofs.Annotation.Placement
import InlineEval.Proofs.Interpreter.Capture

/-! # What a marked print shows

A marked call of `print` shows the entry of the log that the number of reported
lines points to. As long as at most one line is left out of the report, this is
the last entry; beyond that it stays the same one, however much is printed.
-/

namespace InlineEval

open Text

namespace LineSet

/-- A marked line is the only one in the range that consists of it. -/
theorem between_self {lines : LineSet} {i : Nat} (hmem : i ∈ lines) :
    lines.between i i = [i] := by
  have hone : ∀ j ∈ lines.between i i, j = i := fun j hj => by
    have hrange := (mem_between.mp hj).2
    omega
  have hthere : i ∈ lines.between i i :=
    mem_between.mpr ⟨hmem, Nat.le_refl i, Nat.le_refl i⟩
  have hascending := lines.between_ascending i i
  cases hbetween : lines.between i i with
  | nil =>
      rw [hbetween] at hthere
      cases hthere
  | cons j rest =>
      rw [hbetween] at hone hascending
      have hfirst := hone j List.mem_cons_self
      cases rest with
      | nil => rw [hfirst]
      | cons k later =>
          have hsecond := hone k (List.mem_cons_of_mem j List.mem_cons_self)
          have hlt := (List.pairwise_cons.mp hascending).1 k List.mem_cons_self
          omega

end LineSet

namespace Annotation

open Interpreter

/-- The entry for as many lines as the report has. -/
theorem lastPrinted?_of_length {outcome : Outcome} {output : Text}
    (houtput : outcome.output = some output) {entry : PrintEntry}
    (hentry : outcome.prints[(split '\n' output).length - 1]? = some entry) :
    lastPrinted? outcome = some entry := by
  rw [lastPrinted?, houtput]
  simp only [hentry, Option.some_or]

/-- A segment of one marked line is annotated with what that line asks for. -/
theorem place_of_line {outcome : Outcome} (hsuccess : outcome.success = true) {i : Nat}
    {line : Text} (hline : '\n' ∉ line) {marked : LineSet} (hmarked : i ∈ marked) {text : Text}
    (htext : explicitText? outcome true line = some text) :
    place .explicit outcome ⟨i, i, line⟩ marked = .ok [value i text] := by
  have hmessage := Outcome.errorMessage_eq_none_iff.mpr hsuccess
  have hnumbered : Segment.line? ⟨i, i, line⟩ i = some line := by
    simp [Segment.line?, Segment.texts, split_of_not_mem hline]
  simp [place, explicit, hmessage, LineSet.between_self hmarked, hnumbered, htext]

/-- After lines have been printed one by one, a marked call of `print` shows
the last of them, or the one that the note on those left out stands for. -/
theorem marked_print_shown {outcome : Outcome} (hsuccess : outcome.success = true)
    {printed : List Text} (hne : printed ≠ []) (hprinted : ∀ text ∈ printed, IsPrintedLine text)
    (hlog : outcome.prints.map (·.text) = printed)
    (houtput : outcome.output = reportedOutput? (joinLines printed))
    {i : Nat} {line : Text} (hline : '\n' ∉ line) (hkind : LineKind.ofLine line = .printCall)
    {marked : LineSet} (hmarked : i ∈ marked) :
    ∃ shown, printed[min printed.length (shownLines + 1) - 1]? = some shown ∧
      (printed.length ≤ shownLines + 1 → printed.getLast? = some shown) ∧
      place .explicit outcome ⟨i, i, line⟩ marked = .ok [value i (printText shown)] := by
  obtain ⟨output, hreported, hlength⟩ := exists_reportedOutput hne hprinted
  have hpos : 0 < printed.length := List.length_pos_iff.mpr hne
  have hlogged : outcome.prints.length = printed.length := by rw [← hlog, List.length_map]
  obtain ⟨entry, hentry⟩ :
      ∃ entry, outcome.prints[min printed.length (shownLines + 1) - 1]? = some entry :=
    ⟨_, List.getElem?_eq_getElem (by omega)⟩
  have hshown : printed[min printed.length (shownLines + 1) - 1]? = some entry.text := by
    conv_lhs => rw [← hlog]
    rw [List.length_map, hlogged, List.getElem?_map, hentry, Option.map_some]
  refine ⟨entry.text, hshown, fun hfew => ?_, ?_⟩
  · rw [Nat.min_eq_left hfew] at hshown
    rw [List.getLast?_eq_getElem?, hshown]
  · refine place_of_line hsuccess hline hmarked ?_
    rw [← hlength] at hentry
    rw [explicitText?, hkind]
    simp only [lastPrinted?_of_length (houtput.trans hreported) hentry, Option.map_some]

/-- Of eleven lines one is left out of the report, and the last entry is still
shown. The first line is reported without the blank in front of it. -/
theorem marked_print_shown_of_eleven :
    let printed := " 0".toList :: (List.range 10).map fun n => ofNat (n + 1)
    let outcome : Outcome :=
      { Outcome.silent with
        output := some "0\n1\n2\n3\n4\n5\n6\n7\n8\n9\n... (1 more lines)".toList
        prints := printLog printed }
    let line := "    print(n)  # ?".toList
    let marked := LineSet.ofList [7, 3]
    outcome.success = true ∧ printed ≠ [] ∧ (∀ text ∈ printed, IsPrintedLine text) ∧
      outcome.prints.map (·.text) = printed ∧
      outcome.output = reportedOutput? (joinLines printed) ∧ '\n' ∉ line ∧
      LineKind.ofLine line = .printCall ∧ 3 ∈ marked ∧ printed.getLast? = some "10".toList ∧
      place .explicit outcome ⟨3, 3, line⟩ marked = .ok [value 3 " ▶ 10".toList] := by
  intro printed outcome line marked
  have hne : printed ≠ [] := List.cons_ne_nil _ _
  have hprinted : ∀ text ∈ printed, IsPrintedLine text := by decide +kernel
  have hlog : outcome.prints.map (·.text) = printed := map_text_printLog printed
  have houtput : outcome.output = reportedOutput? (joinLines printed) := by decide +kernel
  have hline : '\n' ∉ line := by decide
  have hkind : LineKind.ofLine line = .printCall := by decide +kernel
  have hmarked : 3 ∈ marked := LineSet.mem_ofList.mpr (by decide)
  have hlast : printed.getLast? = some "10".toList := by decide +kernel
  obtain ⟨shown, -, hfew, hplace⟩ :=
    marked_print_shown rfl hne hprinted hlog houtput hline hkind hmarked
  obtain rfl : "10".toList = shown := Option.some.inj (hlast.symm.trans (hfew (by decide)))
  exact ⟨rfl, hne, hprinted, hlog, houtput, hline, hkind, hmarked, hlast, hplace⟩

/-- Of twelve lines the last one is not shown: the note on the two that are
left out counts as one line. -/
theorem eleventh_print_shown_of_twelve :
    let printed := (List.range 12).map fun n => ofNat (n + 1)
    let outcome : Outcome :=
      { Outcome.silent with
        output := reportedOutput? (joinLines printed)
        prints := printLog printed }
    let line := "print(n)  # ?".toList
    let marked := LineSet.ofList [0]
    outcome.success = true ∧ (∀ text ∈ printed, IsPrintedLine text) ∧
      outcome.prints.map (·.text) = printed ∧ LineKind.ofLine line = .printCall ∧
      printed.getLast? = some "12".toList ∧
      place .explicit outcome ⟨0, 0, line⟩ marked = .ok [value 0 " ▶ 11".toList] ∧
      place .explicit outcome ⟨0, 0, line⟩ marked ≠ .ok [value 0 (printText "12".toList)] := by
  intro printed outcome line marked
  have hprinted : ∀ text ∈ printed, IsPrintedLine text := by decide +kernel
  have hlog : outcome.prints.map (·.text) = printed := map_text_printLog printed
  have hkind : LineKind.ofLine line = .printCall := by decide +kernel
  have hlast : printed.getLast? = some "12".toList := by decide +kernel
  have hplace : place .explicit outcome ⟨0, 0, line⟩ marked = .ok [value 0 " ▶ 11".toList] := by
    refine place_of_line rfl (by decide) (LineSet.mem_ofList.mpr (by decide)) ?_
    decide +kernel
  refine ⟨rfl, hprinted, hlog, hkind, hlast, hplace, ?_⟩
  rw [hplace]
  exact nofun

end Annotation

end InlineEval
