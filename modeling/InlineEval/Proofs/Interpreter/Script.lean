import InlineEval.Proofs.Interpreter.Framing
import InlineEval.Proofs.Text.Utf8

/-! # Reports of the bootstrap script

The script that runs a program writes its report in ASCII, with a blank behind
each comma and colon and with every other character escaped in UTF-16 units.
That is not how reports are written here, yet they are read as the same
outcomes. Octets of the program that break off inside a character do no harm
to the report behind them.
-/

namespace InlineEval.Interpreter

open Text Json

/-- What the script writes at the end of a run: its report on a line of its
own. -/
def scriptLine (outcome : Outcome) : Text := '\n' :: (outcome.toJson.renderAs ascii ++ ['\n'])

theorem scriptLine_ascii (outcome : Outcome) : ∀ c ∈ scriptLine outcome, c.toNat < 0x80 := by
  have hreport : IsAscii (outcome.toJson.renderAs ascii) :=
    outcome.whole_toJson.allowed_renderAs ascii_within
  intro c hc
  simp only [scriptLine, List.mem_cons, List.mem_append, List.not_mem_nil, or_false] at hc
  rcases hc with rfl | hc | rfl
  · decide
  · exact Nat.lt_of_le_of_lt (hreport c hc).2 (by decide)
  · decide

theorem readStreams_scriptLine {outcome : Outcome} (hfault : outcome.fault = none)
    (noise stderr : Text) : readStreams (noise ++ scriptLine outcome) stderr = .ok outcome :=
  readStreams_renderAs ascii_legible ascii_printable hfault rfl noise stderr

/-- Whatever text or octets a program wrote before, the report of the script is
read as the outcome that it tells. -/
theorem script_report_read_back {outcome : Outcome} (hfault : outcome.fault = none) :
    (∀ noise stderr : Text, readStreams (noise ++ scriptLine outcome) stderr = .ok outcome) ∧
      ∀ noise stderr : List UInt8,
        Reply.read ⟨noise ++ Utf8.encode (scriptLine outcome), stderr⟩ = .ok outcome := by
  refine ⟨readStreams_scriptLine hfault, fun noise stderr => ?_⟩
  rw [Reply.read, Utf8.decodeLossy_append_encode noise (scriptLine_ascii outcome)]
  exact readStreams_scriptLine hfault _ _

/-- Escapes of every kind, behind the first two octets of a euro sign. -/
theorem script_report_read_back_after_broken_octets :
    let outcome : Outcome :=
      ⟨true, [("é".toList, "'\\\"\x7f😀'".toList)], none, some "a\nb".toList, none,
        [⟨0, "a".toList⟩, ⟨1, "b".toList⟩], none⟩
    let report := "\x7b\"success\": true, \"variables\": ".toList ++
      "\x7b\"\\u00e9\": \"'\\\\\\\"\\u007f\\ud83d\\ude00'\"\x7d, ".toList ++
      "\"expression\": null, \"output\": \"a\\nb\", \"error\": null, ".toList ++
      "\"print_outputs\": [\x7b\"index\": 0, \"text\": \"a\"\x7d, ".toList ++
      "\x7b\"index\": 1, \"text\": \"b\"\x7d]\x7d".toList
    outcome.fault = none ∧ scriptLine outcome = '\n' :: (report ++ ['\n']) ∧
      Reply.read ⟨[0xE2, 0x82] ++ Utf8.encode ('\n' :: (report ++ ['\n'])), []⟩ =
        .ok outcome := by
  intro outcome report
  have hfault : outcome.fault = none := rfl
  have hline : scriptLine outcome = '\n' :: (report ++ ['\n']) := by decide +kernel
  have hread := (script_report_read_back hfault).2 [0xE2, 0x82] []
  rw [hline] at hread
  exact ⟨hfault, hline, hread⟩

end InlineEval.Interpreter
