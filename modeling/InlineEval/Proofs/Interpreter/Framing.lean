import InlineEval.Interpreter.Basic
import InlineEval.Proofs.Json.OneLine
import InlineEval.Proofs.Outcome.Report
import InlineEval.Proofs.Text.Lines
import InlineEval.Proofs.Text.Trim

/-! # Reports among other output

A program shares its standard output with the report on it. The report is a
line of its own and only white space follows it, so it is the last line that is
not blank, whatever the program printed before.
-/

namespace InlineEval

open Text Json

namespace Json

theorem trim_renderAs_object (format : Format) (members : List (Literal × Json)) :
    trim (renderAs format (.object members)) = renderAs format (.object members) := by
  obtain ⟨inner, hinner⟩ := exists_renderAs_object format members
  rw [hinner]
  refine trim_eq_self ?_ ?_
  · rintro c ⟨⟩
    decide
  · rw [← List.cons_append, List.getLast?_concat]
    rintro c ⟨⟩
    decide

theorem isBlank_renderAs_object (format : Format) (members : List (Literal × Json)) :
    isBlank (renderAs format (.object members)) = false := by
  obtain ⟨inner, hinner⟩ := exists_renderAs_object format members
  rw [hinner]
  rfl

end Json

namespace Interpreter

/-- The last line that is not blank is found between any noise before it and
white space behind it. -/
theorem lastLine?_eq_some {line tail : Text} (hnewline : '\n' ∉ line) (hreturn : '\r' ∉ line)
    (hline : isBlank line = false) (htail : isBlank tail = true) (noise : Text) :
    lastLine? (noise ++ '\n' :: (line ++ '\n' :: tail)) = some line := by
  -- Read from the end, the lines of the tail are passed over before the one asked for comes.
  have hlater : (lines tail).reverse.find? (!isBlank ·) = none := by
    refine List.find?_eq_none.mpr fun later hmem => ?_
    simp [isBlank_of_mem_lines htail (List.mem_reverse.mp hmem)]
  rw [lastLine?, lines_append_newline, lines_line_append hnewline hreturn, List.reverse_append,
    List.reverse_cons, List.append_assoc, List.find?_append, hlater, Option.none_or,
    List.singleton_append, List.find?_cons_of_pos]
  simp [hline]

theorem readStreams_of_lastLine? {stdout line : Text} {outcome : Outcome}
    (hline : lastLine? stdout = some line) (hparse : Outcome.parse? (trim line) = some outcome)
    (stderr : Text) : readStreams stdout stderr = .ok outcome := by
  rw [readStreams, hline, Option.bind_some, hparse]

/-- A report in a legible format without control characters is found and read,
whatever stands before it on the output and on the error stream. -/
theorem readStreams_renderAs {format : Format} (hlegible : format.Legible)
    (hprintable : format.Printable) {outcome : Outcome} (hfault : outcome.fault = none)
    {tail : Text} (htail : isBlank tail = true) (noise stderr : Text) :
    readStreams (noise ++ '\n' :: (outcome.toJson.renderAs format ++ '\n' :: tail)) stderr =
      .ok outcome := by
  have hreport : IsPrintable (outcome.toJson.renderAs format) :=
    outcome.whole_toJson.allowed_renderAs hprintable
  refine readStreams_of_lastLine? (lastLine?_eq_some hreport.newline_not_mem
    hreport.carriageReturn_not_mem (isBlank_renderAs_object format _) htail noise) ?_ stderr
  rw [Outcome.toJson, Json.ofFields, trim_renderAs_object, ← Json.ofFields, ← Outcome.toJson]
  exact Outcome.parse?_renderAs hlegible hfault

/-- A report is read back as the outcome that it tells: its variables in their
order and with their repetitions, and the members that are null. -/
theorem report_read_back {outcome : Outcome} (hfault : outcome.fault = none) {tail : Text}
    (htail : isBlank tail = true) (noise stderr : Text) :
    readStreams (noise ++ '\n' :: (outcome.render ++ '\n' :: tail)) stderr = .ok outcome :=
  readStreams_renderAs compact_legible compact_printable hfault htail noise stderr

/-- A variable that is bound twice, characters of every kind of escape, a
printed text that looks like a report, and white space behind it all. -/
theorem report_read_back_with_escapes :
    let printed := "\x7b\"success\":false\x7d".toList
    let outcome : Outcome :=
      ⟨true, [("s".toList, "'\\\"'".toList), ("s".toList, "'\u0001😀'".toList)], none,
        some printed, none, [⟨18446744073709551615, printed⟩], none⟩
    let report := "\x7b\"success\":true,\"variables\":".toList ++
      "\x7b\"s\":\"'\\\\\\\"'\",\"s\":\"'\\u0001😀'\"\x7d,".toList ++
      "\"expression\":null,\"output\":\"\x7b\\\"success\\\":false\x7d\",\"error\":null,".toList ++
      "\"print_outputs\":[\x7b\"index\":18446744073709551615,".toList ++
      "\"text\":\"\x7b\\\"success\\\":false\x7d\"\x7d]\x7d".toList
    outcome.fault = none ∧ isBlank "\u00a0\n".toList = true ∧ outcome.render = report ∧
      readStreams (printed ++ '\n' :: (report ++ "\n\u00a0\n".toList)) "late".toList =
        .ok outcome := by
  intro printed outcome report
  have hfault : outcome.fault = none := rfl
  have htail : isBlank "\u00a0\n".toList = true := by decide
  have hrender : outcome.render = report := by decide +kernel
  have hread := report_read_back hfault htail printed "late".toList
  rw [hrender] at hread
  exact ⟨hfault, htail, hrender, hread⟩

end Interpreter

end InlineEval
